import GrammarManual.Document.Manual
import GrammarManual.Grammar.Load

/-!
# Document/Logged: a run with a logger

Loading and drawing leave a list of messages (`Loaded`, `Outcome`) and take no notice of who reads
it. With a logger at hand each message is handed over as soon as it comes up, and once the logger is
asked: the lexer rules that are left out are gathered for nobody unless details are shown.

* `Press` -- what a document may be made with: an easel, or anything else that takes strokes and may
  fail in ways of its own, also at the end;
* `Source.writeFor`, `RuleSet.scriptFor` -- the script for a reader of details, or for another;
* `Press.performSteps`, `Press.perform` -- drawing a script while a logger listens;
* `Press.run` -- loading the grammars and drawing up their manual.
-/

namespace GrammarManual

namespace Logger

/-- Hands over a message. Its text is no template: it comes without arguments. -/
def tell (l : Logger) (m : Message) : Logger := l.log m.level m.text []

/-- Hands over messages in their order. -/
def tellAll (l : Logger) (messages : List Message) : Logger := messages.foldl tell l

end Logger

/-! ## 1. Scripts -/

namespace Script.Source

/-- Writes the whole script. What is left out is gathered only for a reader of details. -/
def writeFor (s : Source) (details : Bool) : Writing Unit := do
  modify fun c => { c with usages := .ofSymbols s.rules.names }
  let parserItems ← walking (s.documentParser s.rules.parserRules.rules)
  let lexerItems ← walking s.documentLexer
  if details then s.skipNote lexerItems
  s.writeManual lexerItems parserItems

end Script.Source

open Script in
/-- The script of a manual, for a reader of details or for another. -/
def RuleSet.scriptFor [PatternLanguage] (rules : RuleSet) (details : Bool) (settings : Settings)
    (files : FileTree) : Script :=
  match Pattern.read settings.pattern with
  | .error e => { steps := [.draw .begin], stop := some (.pattern e settings.pattern) }
  | .ok pattern =>
    let s : Source := { rules, settings, files, pattern }
    let (result, c) := (s.writeFor details).run.run {}
    match result with
    | .ok () => { steps := .draw .begin :: c.steps }
    | .error e => { steps := .draw .begin :: c.steps, stop := some e }

/-! ## 2. Presses -/

/-- What a document is made with. Items are known by their numbers. -/
structure Press where
  State : Type
  /-- How a stroke, or the end, may fail. -/
  Fault : Type
  step : State → Stroke → State × Option Fault
  /-- How many items were ever added. -/
  itemCount : State → Nat
  finish : State → State × Except Fault String

/-- An easel is a press whose end never fails. -/
def Easel.press (e : Easel) : Press where
  State := e.State
  Fault := StrokeError
  step := e.step
  itemCount := e.itemCount
  finish state := (state, .ok (e.finish state))

/-- What ends a run early. -/
inductive RunError (Fault : Type) where
  | load (e : LoadError)
  | manual (e : ManualError)
  | press (f : Fault)

namespace Press

/-- What a run leaves behind. -/
structure Run (p : Press) where
  state : p.State
  logger : Logger
  result : Except (RunError p.Fault) String

variable (p : Press)

/-- Draws steps in order, up to the first stroke that fails. -/
def performSteps (base : Nat) :
    List ManualStep → p.State → Logger → p.State × Logger × Option p.Fault
  | [], state, l => (state, l, none)
  | .say m :: steps, state, l => performSteps base steps state (l.tell m)
  | .draw s :: steps, state, l =>
    match p.step state (s.shift base) with
    | (state', some fault) => (state', l, some fault)
    | (state', none) => performSteps base steps state' l

/-- Draws a script. -/
def perform (script : Script) (state : p.State) (l : Logger) : p.Run :=
  match p.performSteps (p.itemCount state) script.steps state l with
  | (state, logger, some fault) => { state, logger, result := .error (.press fault) }
  | (state, logger, none) =>
    match script.stop with
    | some stop => { state, logger, result := .error (.manual stop) }
    | none =>
      let (state, document) := p.finish state
      { state, logger, result := document.mapError .press }

/-- **A run:** loads the grammars and draws up their manual. -/
def run [PatternLanguage] (files : FileTree) (parserPath : Path) (lexerPath : Option Path)
    (settings : Settings) (state : p.State) (l : Logger) : p.Run :=
  let loaded := RuleSet.load files parserPath lexerPath
  let logger := l.tellAll loaded.log
  match loaded.result with
  | .error e => { state, logger, result := .error (.load e) }
  | .ok rules =>
    p.perform (rules.scriptFor logger.showsDetails settings files) state logger

end Press

end GrammarManual
