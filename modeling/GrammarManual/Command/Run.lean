import GrammarManual.Command.Invocation
import GrammarManual.Document.Manual
import GrammarManual.Files.Write
import GrammarManual.Grammar.Load
import GrammarManual.Settings.File
import GrammarManual.Text.ControlSequence

/-!
# Command/Run: what a command does

`Invocation.draw` draws up the manual that is asked for and touches no file; `Invocation.run` also
delivers it, to the standard output or to a file. What goes wrong is either told the user, who gets
exit code 1 (`Stop.told`), or not foreseen (`Stop.failed`). `Invocation.runTo` says what arrives
where the streams of a run lead: control sequences are for terminals alone.
-/

namespace GrammarManual.Command

/-! ## 1. Errors -/

/-- What is not foreseen. -/
inductive Failure where
  | settings (e : SettingsError)
  | load (e : LoadError)
  | manual (e : ManualError)
  | write (e : WriteError)
  deriving Repr, Inhabited

/-- What ends a command early. -/
inductive Stop where
  | told (message : String)
  | failed (f : Failure)
  deriving Repr, Inhabited

/-- How an error of the settings ends a command: a folder in their place, what the operating system
    refuses, and a number too large for a pattern are not foreseen. -/
def Stop.ofSettings (e : SettingsError) : Stop :=
  match e.message with
  | some message => .told message
  | none => .failed (.settings e)

/-- How an error of the grammar files ends a command: a file that gives no text is not foreseen. -/
def Stop.ofLoad (e : LoadError) : Stop :=
  match e with
  | .unreadable _ => .failed (.load e)
  | _ => .told e.message

/-- How an error of the manual ends a command. -/
def Stop.ofManual (e : ManualError) : Stop :=
  match e with
  | .walk .outsideRule => .told WalkError.outsideRule.message
  | _ => .failed (.manual e)

/-! ## 2. Drawing -/

/-- The format of a name. -/
def format? : String → Option Format
  | "xml" => some .xml
  | "text" => some .text
  | _ => none

/-- What is said of a format that is none. -/
def formatNote (name : String) : String :=
  "Invalid format '" ++ name ++ "'. Must be 'xml' or 'text'."

/-- What drawing a manual comes to. -/
structure Drawing where
  log : List Message := []
  result : Except Stop String

namespace Invocation

/-- Settings with what the command line says instead. -/
def override (i : Invocation) (s : Settings) : Settings :=
  { s with
    startRules := if i.startRules.isEmpty then s.startRules else i.startRules
    docsFolder := i.docsFolder.getD s.docsFolder
    limit := i.limit.getD s.limit }

/-- Draws up the manual. -/
def draw [PatternLanguage] (i : Invocation) (files : FileTree) : Drawing :=
  match format? i.format with
  | none => { result := .error (.told (formatNote i.format)) }
  | some format =>
    match Settings.discover files (some i.parser) none i.config with
    | .error e => { result := .error (.ofSettings e) }
    | .ok settings =>
      let loaded := RuleSet.load files i.parser i.lexer
      match loaded.result with
      | .error e => { log := loaded.log, result := .error (.ofLoad e) }
      | .ok rules =>
        let outcome := rules.manual format (i.override settings) files
        { log := loaded.log ++ outcome.log, result := outcome.result.mapError .ofManual }

/-! ## 3. Delivering -/

/-- What a run leaves: the end, what was written where, and the files. -/
structure Report where
  /-- The exit code, or what was not foreseen. -/
  ending : Except Failure Nat
  output : String := ""
  errors : String := ""
  files : FileTree

/-- What is said of a file that was written. -/
def writtenNote (path : Path) : String := "Grammar reference written to " ++ path.toText ++ "\n"

/-- Draws up the manual and delivers it. -/
def run [PatternLanguage] (i : Invocation) (files : FileTree) : Report :=
  let drawing := i.draw files
  let errors := Log.toText (Log.shown i.verbosity drawing.log)
  match drawing.result, i.output with
  | .error (.told message), _ =>
    { ending := .ok 1, errors := errors ++ "Error: " ++ message ++ "\n", files }
  | .error (.failed f), _ => { ending := .error f, errors, files }
  | .ok document, none => { ending := .ok 0, output := document, errors, files }
  | .ok document, some path =>
    match files.write path document with
    | .error e => { ending := .error (.write e), errors, files }
    | .ok files => { ending := .ok 0, output := writtenNote path, errors, files }

/-! ## 4. Streams -/

end Invocation

/-- Where a stream leads. -/
inductive Outlet where
  | terminal
  /-- A file or another program. -/
  | elsewhere
  deriving DecidableEq, Repr, Inhabited

/-- What arrives of a text that is printed. -/
def Outlet.arriving : Outlet → String → String
  | .terminal, text => text
  | .elsewhere, text => Text.withoutSequences text

/-- What the user is told of what goes wrong. -/
def Drawing.complaint (d : Drawing) : String :=
  match d.result with
  | .error (.told message) => "Error: " ++ message ++ "\n"
  | _ => ""

namespace Invocation

/-- What arrives of a run. Its messages are written as they are; the manual and what the user is
    told are printed. -/
def runTo [PatternLanguage] (i : Invocation) (out err : Outlet) (files : FileTree) : Report :=
  let drawing := i.draw files
  let report := i.run files
  { report with
    output := out.arriving report.output
    errors := Log.toText (Log.shown i.verbosity drawing.log) ++ err.arriving drawing.complaint }

/-! ## 5. Reading -/

/-- The blurbs that a manual may ask for: that on the notation, and those of all sections. -/
def blurbNames [PatternLanguage] (s : Settings) (rules : RuleSet) : List String :=
  match Pattern.read s.pattern with
  | .error _ => []
  | .ok pattern =>
    let sections (mode : Mode) : List String :=
      (rules.table mode).rules.filterMap fun r =>
        sectionAt pattern (rules.lines mode) s.offset r.line
    Script.Source.preambleName :: sections .lexer ++ sections .parser

/-- The files that a run looks at, as far as those that are known tell. -/
def reads [PatternLanguage] (i : Invocation) (files : FileTree) : List Path :=
  let settings := (i.config.map ([·])).getD (Settings.candidates (some i.parser))
  let blurbs :=
    match Settings.discover files (some i.parser) none i.config,
      (RuleSet.load files i.parser i.lexer).result with
    | .ok s, .ok rules =>
      let s := i.override s
      (blurbNames s rules).map (blurbPath s.docsFolder)
    | _, _ => []
  settings ++ i.parser :: i.lexer.toList ++ blurbs

end Invocation

end GrammarManual.Command
