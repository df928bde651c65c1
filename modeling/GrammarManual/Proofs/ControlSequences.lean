import GrammarManual.Text.ControlSequence

/-!
# Proofs/ControlSequences: texts that hold no control sequence

* `IsControlSequence`, `HoldsSequence` -- what a control sequence is, apart from how it is found;
* `sequenceLength?_eq_some` -- it is found where a text begins with one;
* **`withoutSequences_eq_self_iff`** -- a text loses nothing if and only if it holds none.
-/

namespace GrammarManual.Text

/-- An escape and an opening bracket, parameters, and a letter. -/
def IsControlSequence (s : List Char) : Prop :=
  ∃ params letter, s = '\x1b' :: '[' :: (params ++ [letter]) ∧
    (∀ c ∈ params, isParameter c = true) ∧ letter.isAlpha = true

/-- Whether a control sequence stands somewhere in a text. -/
def HoldsSequence (s : List Char) : Prop :=
  ∃ before sequence after, s = before ++ (sequence ++ after) ∧ IsControlSequence sequence

theorem isParameter_of_isAlpha {c : Char} (h : c.isAlpha = true) : isParameter c = false := by
  have hrange : 65 ≤ c.toNat := by
    delta Char.isAlpha Char.isUpper Char.isLower at h
    simp only [Bool.or_eq_true, Bool.and_eq_true, decide_eq_true_eq, ge_iff_le,
      UInt32.le_iff_toNat_le] at h
    change (65 ≤ c.toNat ∧ c.toNat ≤ 90) ∨ (97 ≤ c.toNat ∧ c.toNat ≤ 122) at h
    omega
  unfold isParameter
  rw [Bool.or_eq_false_iff, Bool.or_eq_false_iff]
  refine ⟨⟨beq_false_of_ne ?_, beq_false_of_ne ?_⟩, ?_⟩
  · rintro rfl
    exact absurd h (by decide)
  · rintro rfl
    exact absurd h (by decide)
  · rw [Bool.and_eq_false_iff]
    refine .inr (decide_eq_false fun hle => ?_)
    have hnine : c.toNat ≤ '9'.toNat := hle
    have hvalue : '9'.toNat = 57 := rfl
    omega

theorem parametersLength?_eq_some {s : List Char} {n : Nat} :
    parametersLength? s = some n ↔ ∃ params letter rest, s = params ++ letter :: rest ∧
      (∀ c ∈ params, isParameter c = true) ∧ letter.isAlpha = true ∧ n = params.length + 1 := by
  constructor
  · intro h
    induction s generalizing n with
    | nil => cases h
    | cons c s ih =>
      rw [parametersLength?] at h
      split at h
      · rename_i hc
        obtain ⟨m, hm, rfl⟩ := Option.map_eq_some_iff.mp h
        obtain ⟨params, letter, rest, rfl, hparams, hletter, rfl⟩ := ih hm
        exact ⟨c :: params, letter, rest, rfl, List.forall_mem_cons.mpr ⟨hc, hparams⟩, hletter, rfl⟩
      · split at h
        · rename_i hc
          cases h
          exact ⟨[], c, s, rfl, nofun, hc, rfl⟩
        · cases h
  · rintro ⟨params, letter, rest, rfl, hparams, hletter, rfl⟩
    induction params with
    | nil =>
      rw [List.nil_append, parametersLength?, isParameter_of_isAlpha hletter, if_pos hletter]
      rfl
    | cons c params ih =>
      obtain ⟨hc, hparams⟩ := List.forall_mem_cons.mp hparams
      rw [List.cons_append, parametersLength?, if_pos hc, ih hparams]
      rfl

/-- **A control sequence is found** where a text begins with one, and nowhere else. -/
theorem sequenceLength?_eq_some {s : List Char} {n : Nat} :
    sequenceLength? s = some n ↔
      ∃ sequence after, s = sequence ++ after ∧ IsControlSequence sequence ∧ n = sequence.length := by
  constructor
  · intro h
    unfold sequenceLength? at h
    split at h
    · rename_i rest
      obtain ⟨m, hm, rfl⟩ := Option.map_eq_some_iff.mp h
      obtain ⟨params, letter, rest, rfl, hparams, hletter, rfl⟩ := parametersLength?_eq_some.mp hm
      refine ⟨_, rest, ?_, ⟨params, letter, rfl, hparams, hletter⟩, ?_⟩
      · simp
      · simp
    · cases h
  · rintro ⟨_, after, rfl, ⟨params, letter, rfl, hparams, hletter⟩, rfl⟩
    have hlength : parametersLength? (params ++ letter :: after) = some (params.length + 1) :=
      parametersLength?_eq_some.mpr ⟨params, letter, after, rfl, hparams, hletter, rfl⟩
    rw [List.cons_append, List.cons_append, List.append_assoc, List.singleton_append,
      sequenceLength?, hlength]
    simp

theorem length_dropSequences_le (skip : Nat) (s : List Char) :
    (dropSequences skip s).length ≤ s.length := by
  induction s generalizing skip with
  | nil => cases skip <;> exact Nat.le_refl _
  | cons c rest ih =>
    cases skip with
    | succ skip => exact Nat.le_trans (ih skip) (Nat.le_succ _)
    | zero =>
      rw [dropSequences]
      split
      · exact Nat.le_trans (ih _) (Nat.le_succ _)
      · exact Nat.succ_le_succ (ih 0)

theorem dropSequences_eq_self_iff (s : List Char) : dropSequences 0 s = s ↔ ¬HoldsSequence s := by
  induction s with
  | nil =>
    refine ⟨?_, fun _ => rfl⟩
    rintro - ⟨before, _, after, h, params, letter, rfl, -⟩
    cases before <;> cases h
  | cons c rest ih =>
    rw [dropSequences]
    split
    · rename_i n hn
      obtain ⟨sequence, after, hs, hsequence, -⟩ := sequenceLength?_eq_some.mp hn
      constructor
      · intro h
        have hlength := congrArg List.length h
        have hle := length_dropSequences_le (n - 1) rest
        rw [List.length_cons] at hlength
        omega
      · exact fun h => absurd ⟨[], sequence, after, hs, hsequence⟩ h
    · rename_i hnone
      rw [List.cons_inj_right, ih]
      refine not_congr ⟨?_, ?_⟩
      · rintro ⟨before, sequence, after, rfl, hsequence⟩
        exact ⟨c :: before, sequence, after, rfl, hsequence⟩
      · rintro ⟨before, sequence, after, h, hsequence⟩
        cases before with
        | nil =>
          have hfound : sequenceLength? (c :: rest) = some sequence.length :=
            sequenceLength?_eq_some.mpr ⟨sequence, after, h, hsequence, rfl⟩
          cases hnone.symm.trans hfound
        | cons b before => exact ⟨before, sequence, after, (List.cons.inj h).2, hsequence⟩

/-- **A text without control sequences loses nothing**, and no other. -/
theorem withoutSequences_eq_self_iff (s : String) :
    withoutSequences s = s ↔ ¬HoldsSequence s.toList := by
  rw [← dropSequences_eq_self_iff]
  constructor
  · intro h
    have hlist := congrArg String.toList h
    rwa [withoutSequences, String.toList_ofList] at hlist
  · intro h
    rw [withoutSequences, h, String.ofList_toList]

end GrammarManual.Text
