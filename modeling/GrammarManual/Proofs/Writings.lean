import GrammarManual.Proofs.Strokes

/-!
# Proofs/Writings: what writing a script takes no notice of

* `Course.behind` -- a course in which other steps were written before;
* `Tame` -- a writing that goes the same way behind other steps, and that does not end because of the
  pattern;
* `Tame.bind`, `Tame.walking`, `Tame.blurb` -- one lemma for each thing that a writing does;
* **`Source.tame_write`**, `Source.tame_writeManual` -- writing a script is tame.
-/

namespace GrammarManual

namespace Script

/-- A course with steps in front of its own. -/
def Course.behind (before : List ManualStep) (c : Course) : Course :=
  { c with steps := before ++ c.steps }

/-- **A tame writing** goes the same way behind other steps, and ends with no error of the pattern. -/
structure Tame {α : Type} (w : Writing α) : Prop where
  behind : ∀ before c, runFrom w (c.behind before) =
    ((runFrom w c).1, (runFrom w c).2.behind before)
  noPattern : ∀ c e text, (runFrom w c).1 ≠ .error (.pattern e text)

/-! ## 1. Steps of a writing -/

section Steps

variable {α β : Type}

theorem Tame.pure (a : α) : Tame (pure a : Writing α) where
  behind _ _ := rfl
  noPattern _ _ _ := nofun

theorem Tame.bind {w : Writing α} {f : α → Writing β} (hw : Tame w) (hf : ∀ a, Tame (f a)) :
    Tame (w >>= f) where
  behind before c := by
    rw [runFrom_bind, runFrom_bind, hw.behind]
    rcases runFrom w c with ⟨result, c'⟩
    cases result with
    | ok a => exact (hf a).behind before c'
    | error e => rfl
  noPattern c e text := by
    rw [runFrom_bind]
    cases hrun : runFrom w c with
    | mk result c' =>
      cases result with
      | ok a => exact (hf a).noPattern c' e text
      | error err =>
        intro h
        cases h
        exact hw.noPattern c e text (by rw [hrun])

/-- A change of what a course knows, whatever its steps. -/
theorem Tame.modify {f : Course → Course} (h : ∀ before c, f (c.behind before) = (f c).behind before) :
    Tame (modify f : Writing Unit) where
  behind before c := congrArg (Except.ok (), ·) (h before c)
  noPattern _ _ _ := nofun

theorem Tame.put (steps : List ManualStep) : Tame (put steps) :=
  .modify fun _ c => congrArg (fun s => { c with steps := s }) (List.append_assoc _ _ _)

theorem Tame.say (level : Level) (text : String) : Tame (say level text) := .put _

theorem Tame.draw (s : Stroke) : Tame (draw s) := .put _

theorem Tame.walking (w : Walk Nat α) : Tame (walking w) where
  behind before c := by
    rw [walking_eq, walking_eq]
    rfl
  noPattern c e text := by
    rw [walking_eq]
    cases (runFrom w c.usages).1 <;> exact nofun

theorem Tame.blurb (files : FileTree) (settings : Settings) (name : String) :
    Tame (blurb files settings name) where
  behind before c := by
    have hblurbs : (c.behind before).blurbs = c.blurbs := rfl
    rw [blurb_eq, blurb_eq, hblurbs]
    cases c.blurbs.lookup name with
    | some known => rfl
    | none =>
      cases readBlurb files settings.docsFolder name with
      | error e => rfl
      | ok found => simp only [Course.behind, List.append_assoc]
  noPattern c e text := by
    rw [blurb_eq]
    cases c.blurbs.lookup name with
    | some known => exact nofun
    | none => cases readBlurb files settings.docsFolder name <;> exact nofun

end Steps

/-! ## 2. The script -/

namespace Source

variable (s : Source)

theorem tame_openSection (rule : String) (current opens : Option String) :
    Tame (s.openSection rule current opens) := by
  unfold openSection
  split
  · exact .pure _
  · split
    · exact .pure _
    · exact (Tame.say _ _).bind fun _ => (Tame.blurb _ _ _).bind fun _ =>
        (Tame.draw _).bind fun _ => .pure _

theorem tame_writeItem (i : Item) : Tame (s.writeItem i) where
  behind before c := by
    rw [writeItem_eq, writeItem_eq]
    simp only [Course.behind, List.append_assoc]
  noPattern c e text := nofun

theorem tame_writeItems (current : Option String) (items : List Item) :
    Tame (s.writeItems current items) := by
  induction items generalizing current with
  | nil => exact .pure _
  | cons i items ih =>
    exact (s.tame_openSection _ _ _).bind fun _ => (s.tame_writeItem i).bind fun _ => ih _

theorem tame_writeUsages (lexerItems parserItems : List Item) :
    Tame (writeUsages lexerItems parserItems) where
  behind before c := by
    have hget (c : Course) : runFrom (get : Writing Course) c = (.ok c, c) := rfl
    unfold writeUsages
    rw [runFrom_bind_ok (hget _), runFrom_bind_ok (hget _)]
    exact ((Tame.put _).bind fun _ => .say _ _).behind before c
  noPattern c e text := nofun

theorem tame_writeManual (lexerItems parserItems : List Item) :
    Tame (s.writeManual lexerItems parserItems) := by
  refine (Tame.blurb _ _ _).bind fun text => ?_
  have hrules : Tame (s.writeRules lexerItems parserItems) :=
    (Tame.draw _).bind fun _ => (s.tame_writeItems _ _).bind fun _ =>
      (Tame.draw _).bind fun _ => (s.tame_writeItems _ _).bind fun _ => tame_writeUsages _ _
  cases text with
  | none => exact hrules
  | some text => exact (Tame.draw _).bind fun _ => hrules

end Source

end Script

end GrammarManual
