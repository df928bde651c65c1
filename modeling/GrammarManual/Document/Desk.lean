import GrammarManual.Document.Manual

/-!
# Document/Desk: one easel for many manuals

An easel outlives the manuals drawn on it. Between two runs it can be used by hand: sections and
descriptions may stay open, strokes may fail half done, and whoever holds an item of an older
document can still write on it. A generator, too, keeps the course of its last run: the blurbs it
has read, and usages whose handles are older items.

* `Desk` -- an easel in use, with the course that the last run left;
* `Event`, `Desk.after` -- what may happen on a desk;
* `Course.renew`, `Desk.script` -- a new run begins by forgetting;
* `Desk.generate` -- a run on a desk, with marks written on older items while it goes on.
-/

namespace GrammarManual

/-- A mark on one of the first `count` items. -/
abbrev Note (count : Nat) : Type := Fin count × Marker

/-- Writes marks one after another. What fails is left half done. -/
def Easel.annotate (e : Easel) {count : Nat} (notes : List (Note count)) (state : e.State) :
    e.State :=
  notes.foldl (fun state note => (e.step state (.write note.1 note.2)).1) state

namespace Script

/-- A course for a new run. The blurbs read before are forgotten; usages are recorded anew once the
    names of the rules are known. -/
def Course.renew (c : Course) : Course := { c with steps := [], blurbs := [], items := 0 }

/-- Draws steps as `performSteps` does while others write: `amid k` goes before the step with the
    number `k`, counted from `number`. -/
def performAmid (e : Easel) {base : Nat} (amid : Nat → List (Note base)) (number : Nat) :
    List ManualStep → e.State → e.State × List Message × Option StrokeError
  | [], state => (e.annotate (amid number) state, [], none)
  | .say m :: steps, state =>
    let (state', log, err) :=
      performAmid e amid (number + 1) steps (e.annotate (amid number) state)
    (state', m :: log, err)
  | .draw s :: steps, state =>
    match e.step (e.annotate (amid number) state) (s.shift base) with
    | (state', some err) => (state', [], some err)
    | (state', none) => performAmid e amid (number + 1) steps state'

/-- What a run comes to once its steps are drawn. -/
def conclude (e : Easel) (script : Script) (state : e.State) (log : List Message)
    (err : Option StrokeError) : e.State × Outcome String :=
  match err, script.stop with
  | some err, _ => (state, { log, result := .error (.stroke err) })
  | none, some stop => (state, { log, result := .error stop })
  | none, none => (state, { log, result := .ok (e.finish state) })

end Script

/-- An easel in use. -/
structure Desk (e : Easel) where
  easel : e.State
  /-- Where the last run came to. -/
  course : Script.Course

/-- What may happen on a desk. -/
inductive Event where
  /-- A stroke by hand, on any item, finished or not. -/
  | stroke (s : Stroke)
  /-- A run, finished or not. The course it leaves depends on where it stopped. -/
  | run (rules : RuleSet) (settings : Settings) (files : FileTree) (left : Script.Course)

namespace Desk

variable {e : Easel}

/-- A desk that nothing has happened on. -/
def fresh (e : Easel) : Desk e := { easel := e.fresh, course := {} }

/-- How many items have been added. -/
def count (d : Desk e) : Nat := e.itemCount d.easel

open Script in
/-- The script of a run on a desk. -/
def script [PatternLanguage] (d : Desk e) (rules : RuleSet) (settings : Settings)
    (files : FileTree) : Script :=
  match Pattern.read settings.pattern with
  | .error err => { steps := [.draw .begin], stop := some (.pattern err settings.pattern) }
  | .ok pattern =>
    let s : Source := { rules, settings, files, pattern }
    let (result, c) := s.write.run.run d.course.renew
    match result with
    | .ok () => { steps := .draw .begin :: c.steps }
    | .error err => { steps := .draw .begin :: c.steps, stop := some err }

/-- A run on a desk: the state of the easel afterwards, the messages and the document. Marks are
    written on items that were there before. -/
def generate [PatternLanguage] (d : Desk e) (rules : RuleSet) (settings : Settings)
    (files : FileTree) (amid : Nat → List (Note d.count)) : e.State × Outcome String :=
  let (state, log, err) :=
    Script.performAmid e amid 0 (d.script rules settings files).steps d.easel
  (d.script rules settings files).conclude e state log err

/-- The desk after an event. -/
def after [PatternLanguage] (d : Desk e) : Event → Desk e
  | .stroke s => { d with easel := (e.step d.easel s).1 }
  | .run rules settings files left =>
    { easel := (d.generate rules settings files fun _ => []).1, course := left }

/-- The desk after some events, on an easel that was fresh before them. -/
def afterAll [PatternLanguage] (e : Easel) (history : List Event) : Desk e := history.foldl after
    (fresh e)

end Desk

end GrammarManual
