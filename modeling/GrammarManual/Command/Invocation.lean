import GrammarManual.Command.Options
import GrammarManual.Files.Path
import GrammarManual.Text.Integer

/-!
# Command/Invocation: what a command line asks for

`grammardoc [options] render [options]`: the first options hold for the whole run, the second ones
for the manual. `Request.ofArguments` gives the invocation, or says that the command line is wrong
or asks for help.
-/

namespace GrammarManual.Command

/-! ## 1. Options -/

/-- The options of the whole run. -/
inductive RunOption where
  | verbose
  | config
  deriving DecidableEq, Repr, Inhabited

/-- The options of a manual. -/
inductive ManualOption where
  | parser
  | lexer
  | format
  | output
  | startRule
  | docsFolder
  | splitLength
  deriving DecidableEq, Repr, Inhabited

/-- How the options of the whole run are written. -/
def runOptions : Options RunOption where
  long := [("--verbose", .verbose), ("--config", .config)]
  letters := [('v', .verbose), ('c', .config)]

/-- How the options of a manual are written. -/
def manualOptions : Options ManualOption where
  long :=
    [("--parser", .parser), ("--lexer", .lexer), ("--format", .format), ("--output", .output),
     ("--start-rule", .startRule), ("--docs-folder", .docsFolder),
     ("--split-length", .splitLength)]
  letters := [('p', .parser), ('l', .lexer), ('f', .format), ('o', .output)]

/-- What is said on help. -/
def helpText : String :=
  "Usage: grammardoc [-v LEVEL] [-c PATH] render -p PATH [-l PATH] [-f xml|text] [-o PATH]\n" ++
  "                  [--start-rule NAME]... [--docs-folder PATH] [--split-length N]\n"

/-! ## 2. Numbers -/

/-- The integer that a text writes, if it is at least `least` and not above `most`. -/
def integerWithin? (least : Int) (most : Option Int) (s : String) : Option Int := do
  let n ← Text.integer? s
  if least ≤ n ∧ most.all (n ≤ ·) then some n else none

/-! ## 3. Invocations -/

/-- What a command line asks for. -/
structure Invocation where
  verbosity : Int := 0
  /-- The settings file. -/
  config : Option Path := none
  parser : Path
  lexer : Option Path := none
  format : String := "xml"
  output : Option Path := none
  startRules : List String := []
  docsFolder : Option Path := none
  limit : Option Int := none
  deriving DecidableEq, Repr, Inhabited

/-- What a command line comes to. -/
inductive Request where
  | render (i : Invocation)
  | help
  /-- The command line is wrong. -/
  | misuse
  deriving DecidableEq, Repr, Inhabited

/-- A value that may be missing but not wrong. -/
def checked {α : Type} (read : String → Option α) : Option String → Option (Option α)
  | none => some none
  | some s => (read s).map some

/-- The path that an option gives. -/
def pathOf {α : Type} [DecidableEq α] (g : Given α) (key : α) : Option Path :=
  (g.last? key).map Path.ofString

/-- The invocation that the options of the run and of the manual describe. -/
def Invocation.ofOptions? (run : Given RunOption) (manual : Given ManualOption) :
    Option Invocation := do
  let verbosity ← checked (integerWithin? 0 (some 3)) (run.last? .verbose)
  let limit ← checked (integerWithin? 1 none) (manual.last? .splitLength)
  let parser ← pathOf manual .parser
  some {
    verbosity := verbosity.getD 0
    config := pathOf run .config
    parser
    lexer := pathOf manual .lexer
    format := (manual.last? .format).getD "xml"
    output := pathOf manual .output
    startRules := manual.all .startRule
    docsFolder := pathOf manual .docsFolder
    limit }

/-- Reads the part of a command line behind the name of the command. -/
def Request.ofManual (run : Given RunOption) (arguments : List String) : Request :=
  match manualOptions.read true arguments with
  | none => .misuse
  | some manual =>
    if manual.help then .help
    else if !manual.operands.isEmpty then .misuse
    else (Invocation.ofOptions? run manual).elim .misuse .render

/-- Reads a command line. -/
def Request.ofArguments (arguments : List String) : Request :=
  match runOptions.read false arguments with
  | none => .misuse
  | some run =>
    if run.help then .help
    else
      match run.operands with
      | "render" :: rest => Request.ofManual run rest
      | _ => .misuse

end GrammarManual.Command
