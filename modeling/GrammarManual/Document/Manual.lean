import GrammarManual.Document.Script
import GrammarManual.Draft.Text
import GrammarManual.Draft.Xml

/-!
# Document/Manual: drawing up a manual

`Script.perform` draws a script on an easel: it stops at the first stroke that fails and keeps the
messages left until then. `RuleSet.manual` is the whole of it, for one of the two formats.
-/

namespace GrammarManual

/-- The formats of a manual. -/
inductive Format where
  | text
  | xml
  deriving DecidableEq, Repr, Inhabited

/-- The easel of a format. -/
def Format.easel : Format → Easel
  | .text => textEasel
  | .xml => xmlEasel

/-- What a run leaves behind. -/
structure Outcome (α : Type) where
  log : List Message
  result : Except ManualError α

/-- A stroke on the items of a script, whose first item has the number `base`. -/
def Stroke.shift (base : Nat) : Stroke → Stroke
  | .write item marker => .write (base + item) marker
  | s => s

namespace Script

/-- Draws steps in order, up to the first stroke that fails. -/
def performSteps (e : Easel) (base : Nat) :
    List ManualStep → e.State → e.State × List Message × Option StrokeError
  | [], state => (state, [], none)
  | .say m :: steps, state =>
    let (state', log, err) := performSteps e base steps state
    (state', m :: log, err)
  | .draw s :: steps, state =>
    match e.step state (s.shift base) with
    | (state', some err) => (state', [], some err)
    | (state', none) => performSteps e base steps state'

/-- Draws a script: the state of the easel afterwards, the messages and the document. -/
def perform (e : Easel) (script : Script) (state : e.State) : e.State × Outcome String :=
  let (state', log, err) := performSteps e (e.itemCount state) script.steps state
  match err, script.stop with
  | some err, _ => (state', { log, result := .error (.stroke err) })
  | none, some stop => (state', { log, result := .error stop })
  | none, none => (state', { log, result := .ok (e.finish state') })

/-- Draws a script several times on one easel, up to the first run that fails. -/
def performTimes (e : Easel) (script : Script) : Nat → e.State → Outcome (List String)
  | 0, _ => { log := [], result := .ok [] }
  | n + 1, state =>
    let (state', first) := script.perform e state
    match first.result with
    | .error err => { log := first.log, result := .error err }
    | .ok document =>
      let rest := performTimes e script n state'
      { log := first.log ++ rest.log, result := rest.result.map (document :: ·) }

end Script

/-- Draws up the manual of a rule set. -/
def RuleSet.manual [PatternLanguage] (rules : RuleSet) (format : Format) (settings : Settings)
    (files : FileTree) : Outcome String :=
  ((rules.script settings files).perform format.easel format.easel.fresh).2

end GrammarManual
