import GrammarManual.Document.Section
import GrammarManual.Pattern.Language

/-!
# Proofs/Patterns: what a group takes stands in the text

A match moves a spot over a text, forth and back, and notes pieces that it passed.

* `Spot.In` -- a spot between two characters of a text, and nothing noted but pieces of it;
* `Leads` -- what is so of every way that goes on from such a spot, one lemma for each way to go on;
* `Regex.run_leads` -- matching goes on like this, whatever the expression;
* **`WrittenPattern.infix_of_search`** -- whatever a group takes in a match is a piece of the text that
  was searched; so the name of a section is a piece of a line (`sectionAt_infix`).
-/

namespace GrammarManual

/-! ## 1. Spots in a text -/

/-- **A spot in a text.** -/
structure Spot.In (text : List Char) (s : Spot) : Prop where
  around : s.behind.reverse ++ s.ahead = text
  taken : ∀ entry ∈ s.taken, entry.2 <:+: text

namespace Spot

variable {text : List Char} {s s' : Spot}

theorem In.next {c : Char} (h : s.In text) (hnext : s.next? = some (c, s')) : s'.In text := by
  unfold next? at hnext
  split at hnext
  · cases hnext
  · rename_i d rest hahead
    cases hnext
    refine ⟨?_, h.taken⟩
    rw [← h.around, hahead, List.reverse_cons, List.append_assoc, List.singleton_append]

theorem In.back (h : s.In text) {n : Nat} (hback : s.back? n = some s') : s'.In text := by
  induction n generalizing s with
  | zero =>
    cases hback
    exact h
  | succ n ih =>
    unfold back? at hback
    split at hback
    · cases hback
    · rename_i c rest hbehind
      refine ih (s := { s with position := s.position - 1, behind := rest, ahead := c :: s.ahead })
        ⟨?_, h.taken⟩ hback
      rw [← h.around, hbehind, List.reverse_cons, List.append_assoc, List.singleton_append]

theorem In.past (h : s.In text) {l : Lettering} {piece : List Char}
    (hpast : s.past? l piece = some s') : s'.In text := by
  induction piece generalizing s with
  | nil =>
    cases hpast
    exact h
  | cons c piece ih =>
    unfold past? at hpast
    split at hpast
    · rename_i d s1 hnext
      split at hpast
      · exact ih (h.next hnext) hpast
      · cases hpast
    · cases hpast

/-- What was passed since an earlier spot may be noted. -/
theorem In.note (h : s.In text) (h' : s'.In text) (index : Nat) :
    In text { s' with taken := (index, s'.since s) :: s'.taken } := by
  refine ⟨h'.around, List.forall_mem_cons.mpr ⟨?_, h'.taken⟩⟩
  have hahead : s.ahead <:+: text := h.around ▸ (List.suffix_append _ _).isInfix
  exact (List.take_prefix _ _).isInfix.trans hahead

/-- What was noted on the way may be kept where the way is not. -/
theorem In.keep (h : s.In text) (h' : s'.In text) : In text { s with taken := s'.taken } :=
  ⟨h.around, h'.taken⟩

theorem all_in {behind rest : List Char} {position : Nat} (hs : s ∈ all position behind rest) :
    s.In (behind.reverse ++ rest) := by
  induction rest generalizing position behind with
  | nil =>
    rw [all, List.mem_singleton] at hs
    subst hs
    exact ⟨rfl, nofun⟩
  | cons c rest ih =>
    rcases List.mem_cons.mp hs with rfl | hs
    · exact ⟨rfl, nofun⟩
    · have h := ih hs
      rwa [List.reverse_cons, List.append_assoc, List.singleton_append] at h

end Spot

/-! ## 2. Ways to go on -/

/-- **A step goes on from spots in a text only:** whatever holds of all that comes out of such spots
    holds of what comes out of the step. -/
def Leads (text : List Char) (step : Spot → (Spot → Option Spot) → Option Spot) : Prop :=
  ∀ (Q : Spot → Prop) (s : Spot) (k : Spot → Option Spot) (t : Spot), s.In text →
    (∀ s' t, s'.In text → k s' = some t → Q t) → step s k = some t → Q t

namespace Leads

variable {text : List Char} {step first second : Spot → (Spot → Option Spot) → Option Spot}

theorem here : Leads text fun s k => k s := fun _ s _ t hs hk h => hk s t hs h

theorem seq (h1 : Leads text first) (h2 : Leads text second) :
    Leads text fun s k => first s fun s' => second s' k := by
  intro Q s k t hs hk h
  exact h1 Q s _ t hs (fun s' t hs' h' => h2 Q s' k t hs' hk h') h

theorem alt (h1 : Leads text first) (h2 : Leads text second) :
    Leads text fun s k => (first s k).or (second s k) := by
  intro Q s k t hs hk h
  rcases Option.or_eq_some_iff.mp h with h | ⟨-, h⟩
  · exact h1 Q s k t hs hk h
  · exact h2 Q s k t hs hk h

/-- The first way of a step is a way to a spot in the text. -/
theorem first_in (hstep : Leads text step) {s s' : Spot} (hs : s.In text)
    (h : step s some = some s') : s'.In text := by
  refine hstep (Spot.In text) s some s' hs (fun s1 t hs1 h1 => ?_) h
  exact Option.some.inj h1 ▸ hs1

theorem atomic (hstep : Leads text step) : Leads text fun s k => (step s some).bind k := by
  intro Q s k t hs hk h
  obtain ⟨s', h', hk'⟩ := Option.bind_eq_some_iff.mp h
  exact hk s' t (hstep.first_in hs h') hk'

theorem repeatExactly (hstep : Leads text step) (n : Nat) :
    Leads text (Regex.repeatExactly step n) := by
  induction n with
  | zero => exact here
  | succ n ih => exact hstep.seq ih

theorem repeatMore (hstep : Leads text step) (greedy : Bool) (rounds : Nat) (most : Option Nat) :
    Leads text fun s k => Regex.repeatMore step greedy k rounds most s := by
  induction rounds generalizing most with
  | zero => exact here
  | succ rounds ih =>
    -- one round more, and then the rest or, if it took nothing, the end
    have again (left : Option Nat) : Leads text fun s k => step s fun s' =>
        if s'.position = s.position then k s'
        else Regex.repeatMore step greedy k rounds left s' := by
      intro Q s k t hs hk h
      refine hstep Q s _ t hs (fun s' t hs' h' => ?_) h
      split at h'
      · exact hk s' t hs' h'
      · exact ih left Q s' k t hs' hk h'
    intro Q s k t hs hk h
    dsimp only at h
    unfold Regex.repeatMore at h
    dsimp only at h
    split at h
    · exact hk s t hs h
    · exact (again _).alt here Q s k t hs hk h
    · exact here.alt (again _) Q s k t hs hk h
    · exact (again _).alt here Q s k t hs hk h
    · exact here.alt (again _) Q s k t hs hk h

end Leads

/-! ## 3. Matches -/

open Leads in
/-- **Matching goes from spots in a text to spots in the text.** -/
theorem Regex.run_leads (text : List Char) (r : Regex) : Leads text r.run := by
  induction r with
  | empty => exact here
  | any | chars =>
    intro Q s k t hs hk h
    unfold run at h
    split at h
    · rename_i c s' hnext
      split at h
      · exact hk s' t (hs.next hnext) h
      · cases h
    · cases h
  | anchor p =>
    intro Q s k t hs hk h
    unfold run at h
    split at h
    · exact hk s t hs h
    · cases h
  | seq first second ih1 ih2 => exact ih1.seq ih2
  | alt first second ih1 ih2 => exact ih1.alt ih2
  | group index body ih =>
    intro Q s k t hs hk h
    exact ih Q s _ t hs (fun s' t hs' h' => hk _ t (hs.note hs' index) h') h
  | loop body least most eagerness ih =>
    have loop {step : Spot → (Spot → Option Spot) → Option Spot} (hstep : Leads text step)
        (greedy : Bool) : Leads text fun s k => repeatExactly step least s fun s' =>
          repeatMore step greedy k (s'.ahead.length + 1) (most.map (· - least)) s' := by
      intro Q s k t hs hk h
      refine hstep.repeatExactly least Q s _ t hs (fun s' t hs' h' => ?_) h
      exact hstep.repeatMore greedy _ _ Q s' k t hs' hk h'
    cases eagerness with
    | greedy => exact loop ih true
    | lazy => exact loop ih false
    | possessive => exact (loop ih.atomic true).atomic
  | atomic body ih => exact ih.atomic
  | ahead negated body ih =>
    intro Q s k t hs hk h
    unfold run at h
    split at h
    · rename_i s' hbody
      exact hk _ t (hs.keep (ih.first_in hs hbody)) h
    · exact hk s t hs h
    · cases h
  | behind negated body ih =>
    intro Q s k t hs hk h
    unfold run at h
    split at h
    · rename_i s' hbody
      obtain ⟨s1, hback, hbody⟩ := Option.bind_eq_some_iff.mp hbody
      exact hk _ t (hs.keep (ih.first_in (hs.back hback) hbody)) h
    · exact hk s t hs h
    · cases h
  | again l index width =>
    intro Q s k t hs hk h
    unfold run at h
    split at h
    · obtain ⟨s', hpast, h⟩ := Option.bind_eq_some_iff.mp h
      exact hk s' t (hs.past hpast) h
    · cases h
  | choice index first second ih1 ih2 =>
    intro Q s k t hs hk h
    unfold run at h
    split at h
    · exact ih1 Q s k t hs hk h
    · exact ih2 Q s k t hs hk h

/-- **Whatever a group takes in a match is a piece of the text that was searched.** -/
theorem WrittenPattern.infix_of_search (p : WrittenPattern) {text : List Char} {taken : Taken}
    (h : p.search text = some taken) : ∀ entry ∈ taken, entry.2 <:+: text := by
  obtain ⟨s, hs, hfound⟩ := List.exists_of_findSome?_eq_some h
  obtain ⟨s', hrun, rfl⟩ := Option.map_eq_some_iff.mp hfound
  exact (Leads.first_in (p.regex.run_leads text) (Spot.all_in hs) hrun).taken

/-- **The name of a section is a piece of a line.** -/
theorem sectionAt_infix (p : WrittenPattern) {lines : List String} {offset line : Int}
    {name : String} (h : sectionAt p.toPattern lines offset line = some name) :
    ∃ l ∈ lines, name.toList <:+: l.toList := by
  unfold sectionAt at h
  dsimp only at h
  split at h
  · cases h
  · obtain ⟨l, hline, h⟩ := Option.bind_eq_some_iff.mp h
    obtain ⟨found, hsearch, hname⟩ := Option.bind_eq_some_iff.mp h
    obtain ⟨taken, htaken, hfound⟩ := Option.bind_eq_some_iff.mp hsearch
    cases hfound
    obtain ⟨index, hindex, hname⟩ := Option.bind_eq_some_iff.mp hname
    obtain ⟨piece, hpiece, hname⟩ := Option.bind_eq_some_iff.mp hname
    cases hname
    refine ⟨l, List.mem_of_getElem? hline, ?_⟩
    obtain ⟨before, rest, htaken', -⟩ := List.lookup_eq_some_iff.mp hpiece
    rw [String.toList_ofList]
    exact p.infix_of_search htaken (index, piece)
      (htaken' ▸ List.mem_append_right _ List.mem_cons_self)

end GrammarManual
