import GrammarManual.Document.Item
import GrammarManual.Document.Section
import GrammarManual.Draft.Basic
import GrammarManual.Markup.Body
import GrammarManual.Pattern.Language
import GrammarManual.Settings.Basic

/-!
# Document/Script: what a manual consists of, step by step

A `Script` is the whole course of drawing up a manual, independent of any format: the strokes to
draw and the messages to leave, in their order, and the error that ends it early, if there is one.

* Parser rules are walked first: their references decide which lexer rules are documented.
* A lexer rule is documented once some other rule refers to it. Walking it may make further lexer
  rules qualify, so rounds over the table are repeated until none does (`documentLexer`).
* Lexer rules are written before parser rules, both in the order of declaration. A rule stands in
  the section that was opened last among the rules of its kind.
* Usages come last, when every reference is known.
-/

namespace GrammarManual

/-- What ends a run early. -/
inductive ManualError where
  | pattern (e : PatternError) (pattern : String)
  | walk (e : WalkError)
  | blurb (e : ReadError)
  | stroke (e : StrokeError)
  deriving Repr, Inhabited

/-- One step of a script. -/
inductive ManualStep where
  | say (m : Message)
  | draw (s : Stroke)
  deriving DecidableEq, Repr, Inhabited

/-- The course of drawing up a manual. -/
structure Script where
  steps : List ManualStep
  /-- What ends it early. -/
  stop : Option ManualError := none
  deriving Inhabited

namespace Script

/-! ## 1. State -/

/-- What is known while a script is written. Handles of usages are item numbers. -/
structure Course where
  steps : List ManualStep := []
  usages : UsageMap Nat := {}
  /-- The blurbs asked for so far; each is read once. -/
  blurbs : List (String × Option String) := []
  /-- The number of the next item. -/
  items : Nat := 0
  deriving Inhabited

/-- A computation that writes a script and may end it. -/
abbrev Writing := ExceptT ManualError (StateM Course)

/-- Appends steps. -/
def put (steps : List ManualStep) : Writing Unit :=
  modify fun c => { c with steps := c.steps ++ steps }

/-- Appends a message. -/
def say (level : Level) (text : String) : Writing Unit := put [.say ⟨level, text⟩]

/-- Appends a stroke. -/
def draw (s : Stroke) : Writing Unit := put [.draw s]

/-- Walks with the usage map of the course. -/
def walking {α : Type} (w : Walk Nat α) : Writing α := do
  let c ← get
  let (result, usages) := w.run.run c.usages
  set { c with usages }
  match result with
  | .ok a => return a
  | .error e => throw (.walk e)

/-- The blurb of a section, read at most once in a script. -/
def blurb (files : FileTree) (settings : Settings) (name : String) : Writing (Option String) := do
  match (← get).blurbs.lookup name with
  | some known => return known
  | none =>
    match readBlurb files settings.docsFolder name with
    | .error e => throw (.blurb e)
    | .ok found =>
      if found.isNone then put [.say (noBlurb settings.docsFolder name)]
      modify fun c => { c with blurbs := c.blurbs ++ [(name, found)] }
      return found

/-! ## 2. Which rules are documented -/

/-- What a script is written from. -/
structure Source where
  rules : RuleSet
  settings : Settings
  files : FileTree
  /-- The pattern of the settings. -/
  pattern : Pattern

namespace Source

/-- What all walks share. -/
def view (s : Source) : View where
  literals := LiteralIndex.ofRules s.rules.lexerRules.rules
  limit := s.settings.limit

/-- Lays out a rule. -/
def item (s : Source) (mode : Mode) (r : Rule) : Walk Nat Item := do
  let body ← r.walkBody s.view mode
  let opens := sectionAt s.pattern (s.rules.lines mode) s.settings.offset r.line
  return { rule := r, body, opens }

/-- One round over the lexer rules: lays out those that are used and not yet laid out. -/
def lexerRound (s : Source) : List Rule → List Item → Walk Nat (List Item)
  | [], done => return done
  | r :: rs, done => do
    if !(done.any fun i => i.rule.name = r.name) && (← get).isUsed r.name then
      lexerRound s rs (done ++ [← s.item .lexer r])
    else lexerRound s rs done

/-- Rounds until none finds a further rule. Every round but the last finds one, so the number of
    rules bounds them. -/
def lexerRounds (s : Source) (rs : List Rule) : Nat → List Item → Walk Nat (List Item)
  | 0, done => return done
  | n + 1, done => do
    let done' ← s.lexerRound rs done
    if done'.length = done.length then return done' else lexerRounds s rs n done'

/-- The lexer rules to document, in the order of declaration. -/
def documentLexer (s : Source) : Walk Nat (List Item) := do
  let rs := s.rules.lexerRules.rules
  let found ← s.lexerRounds rs (rs.length + 1) []
  return rs.filterMap fun r => found.find? fun i => i.rule.name = r.name

/-- The parser rules, in the order of declaration. -/
def documentParser (s : Source) : List Rule → Walk Nat (List Item)
  | [] => return []
  | r :: rs => do
    let i ← s.item .parser r
    let is ← documentParser s rs
    return i :: is

/-! ## 3. Writing -/

/-- Opens a section, unless it is the current one. -/
def openSection (s : Source) (rule : String) (current opens : Option String) :
    Writing (Option String) :=
  match opens with
  | none => return current
  | some name =>
    if current = some name then return current
    else do
      say .details ("Opening section '" ++ name ++ "' at rule " ++ rule)
      let text ← blurb s.files s.settings name
      draw (.openSection name text)
      return some name

/-- Writes an item under the next number. -/
def writeItem (s : Source) (i : Item) : Writing Unit := do
  say .debug ("Emitting rule " ++ i.rule.name)
  draw (.addItem i.rule.fragment)
  let c ← get
  set { c with usages := c.usages.bind i.rule.name c.items, items := c.items + 1 }
  put ((i.markers (s.settings.startRules.contains i.rule.name)).map
    fun m => .draw (.write c.items m))

/-- Writes items, each in the section opened last. -/
def writeItems (s : Source) : Option String → List Item → Writing Unit
  | _, [] => return ()
  | current, i :: is => do
    let current' ← s.openSection i.rule.name current i.opens
    s.writeItem i
    writeItems s current' is

/-- Names the lexer rules that are left out. -/
def skipNote (s : Source) (documented : List Item) : Writing Unit := do
  let skipped := s.rules.lexerRules.names.filter fun n =>
    !(documented.any fun i => i.rule.name = n)
  if !skipped.isEmpty then
    say .details ("Skipping unreferenced lexer rules: " ++ String.intercalate ", " skipped)

/-- The name of the text that explains the notation. -/
def preambleName : String := "notation"

/-- What is written once all rules are written. -/
def writeUsages (lexerItems parserItems : List Item) : Writing Unit := do
  let flushed := (← get).usages.flush
  put (flushed.map fun (index, names) => .draw (.write index (.usages names)))
  say .progress ("Documented " ++ toString lexerItems.length ++ " lexer and "
    ++ toString parserItems.length ++ " parser rules (" ++ toString flushed.length
    ++ " with usages)")

/-- What is written behind the text that explains the notation. -/
def writeRules (s : Source) (lexerItems parserItems : List Item) : Writing Unit := do
  draw .leaveSection
  s.writeItems none lexerItems
  draw .leaveSection
  s.writeItems none parserItems
  writeUsages lexerItems parserItems

/-- What is written once all rules have been walked. -/
def writeManual (s : Source) (lexerItems parserItems : List Item) : Writing Unit := do
  if let some text ← blurb s.files s.settings preambleName then draw (.preamble text)
  s.writeRules lexerItems parserItems

/-- Writes the whole script. -/
def write (s : Source) : Writing Unit := do
  modify fun c => { c with usages := .ofSymbols s.rules.names }
  let parserItems ← walking (s.documentParser s.rules.parserRules.rules)
  let lexerItems ← walking s.documentLexer
  s.skipNote lexerItems
  s.writeManual lexerItems parserItems

end Source

end Script

open Script in
/-- The script of a manual. -/
def RuleSet.script [PatternLanguage] (rules : RuleSet) (settings : Settings) (files : FileTree) :
    Script :=
  match Pattern.read settings.pattern with
  | .error e => { steps := [.draw .begin], stop := some (.pattern e settings.pattern) }
  | .ok pattern =>
    let s : Source := { rules, settings, files, pattern }
    let (result, c) := s.write.run.run {}
    match result with
    | .ok () => { steps := .draw .begin :: c.steps }
    | .error e => { steps := .draw .begin :: c.steps, stop := some e }

end GrammarManual
