import GrammarManual.Proofs.Widths
import Mathlib.Algebra.BigOperators.Group.List.Basic

/-!
# Proofs/Cuttings: the lines of a sequence

A sequence is cut into lines by filling one line after the other. No other way to cut it does with
fewer lines.

* `IsCutting` -- lines that a list of items may be cut into: none is empty, and each is as wide as
  the limit at most or holds one item alone;
* `Continues` -- the same of what stands behind the first item of a line; `continues_fillLine` says
  it of the lines that are filled;
* `length_fillLine_mono`, **`length_fillLine_le`** -- a line begun further left needs no more lines
  behind it, and filling needs no more than any other way to go on;
* **`sequence_lines_fewest`** -- the marks of a sequence are those of its lines, and these are the
  fewest.
-/

namespace GrammarManual

/-! ## 1. Ways to cut a list -/

section Cutting

variable {α β : Type} (limit : Int) (width : α → Nat)

/-- The width of the items of a line; what stands between them does not count. -/
def totalWidth (line : List α) : Nat := (line.map width).sum

/-- A line that is not too wide, or cannot be helped. -/
def IsNarrow (line : List α) : Prop := line.length = 1 ∨ (totalWidth width line : Int) ≤ limit

/-- Consecutive lines that hold the items of a list. -/
structure IsCutting (xs : List α) (lines : List (List α)) : Prop where
  flatten : lines.flatten = xs
  nonempty : ∀ line ∈ lines, line ≠ []
  narrow : ∀ line ∈ lines, IsNarrow limit width line

/-- What may stand behind the items of a line that are `used` wide: more of the line, and the lines
    after it. -/
structure Continues (used : Nat) (xs line : List α) (more : List (List α)) : Prop where
  flatten : line ++ more.flatten = xs
  fits : line = [] ∨ ((used + totalWidth width line : Nat) : Int) ≤ limit
  cut : IsCutting limit width more.flatten more

variable {limit width} {x : α} {xs line : List α} {more lines : List (List α)} {used : Nat}

theorem isCutting_nil : IsCutting limit width ([] : List α) [] := ⟨rfl, nofun, nofun⟩

theorem isNarrow_cons :
    IsNarrow limit width (x :: line) ↔
      line = [] ∨ ((width x + totalWidth width line : Nat) : Int) ≤ limit := by
  unfold IsNarrow totalWidth
  rw [List.map_cons, List.sum_cons, List.length_cons, Nat.add_eq_right, List.length_eq_zero_iff]

/-- The first line of a cutting begins with the first item, and the rest continues it. -/
theorem isCutting_cons :
    IsCutting limit width (x :: xs) ((x :: line) :: more) ↔
      Continues limit width (width x) xs line more := by
  constructor
  · intro h
    have hnarrow := isNarrow_cons.mp (h.narrow _ List.mem_cons_self)
    exact ⟨(List.cons.inj h.flatten).2, hnarrow, rfl,
      fun l hl => h.nonempty l (List.mem_cons_of_mem _ hl),
      fun l hl => h.narrow l (List.mem_cons_of_mem _ hl)⟩
  · intro h
    exact ⟨congrArg (x :: ·) h.flatten,
      List.forall_mem_cons.mpr ⟨List.cons_ne_nil _ _, h.cut.nonempty⟩,
      List.forall_mem_cons.mpr ⟨isNarrow_cons.mpr h.fits, h.cut.narrow⟩⟩

theorem IsCutting.exists_cons (h : IsCutting limit width (x :: xs) lines) :
    ∃ line more, lines = (x :: line) :: more := by
  cases lines with
  | nil => cases h.flatten
  | cons first more =>
    cases first with
    | nil => exact absurd rfl (h.nonempty [] List.mem_cons_self)
    | cons y line =>
      cases (List.cons.inj h.flatten).1
      exact ⟨line, more, rfl⟩

/-- A wider limit admits the same lines. -/
theorem IsCutting.mono (h : IsCutting limit width xs lines) {wider : Int} (hle : limit ≤ wider) :
    IsCutting wider width xs lines :=
  ⟨h.flatten, h.nonempty, fun l hl => (h.narrow l hl).imp id fun hw => Int.le_trans hw hle⟩

/-! ## 2. Filled lines -/

/-- **Filling a line** gives a way to go on. -/
theorem continues_fillLine (xs : List α) (used : Nat) :
    Continues limit width used xs (fillLine limit width used xs).1
      (fillLine limit width used xs).2 := by
  induction xs generalizing used with
  | nil => exact ⟨rfl, .inl rfl, isCutting_nil⟩
  | cons x xs ih =>
    rw [fillLine]
    by_cases hwide : ((used + width x : Nat) : Int) > limit
    · rw [if_pos hwide]
      have hlines := isCutting_cons.mpr (ih (width x))
      exact ⟨hlines.flatten, .inl rfl, hlines.flatten.symm ▸ hlines⟩
    · rw [if_neg hwide]
      obtain ⟨hflatten, hfits, hcut⟩ := ih (used + width x)
      refine ⟨congrArg (x :: ·) hflatten, .inr ?_, hcut⟩
      unfold totalWidth at hfits ⊢
      rw [List.map_cons, List.sum_cons]
      rcases hfits with hnil | hfits
      · rw [hnil, List.map_nil, List.sum_nil]
        omega
      · omega

/-- A line begun further left needs no more lines behind it, and wherever it is begun, one line more
    is enough. The two need each other: where one line breaks before an item and the other does not,
    their next lines begin at different places. -/
theorem length_fillLine_mono (limit : Int) (width : α → Nat) (xs : List α) :
    (∀ used used', used ≤ used' →
      (fillLine limit width used xs).2.length ≤ (fillLine limit width used' xs).2.length) ∧
    ∀ used used',
      (fillLine limit width used xs).2.length ≤ (fillLine limit width used' xs).2.length + 1 := by
  induction xs with
  | nil => exact ⟨fun _ _ _ => Nat.le_refl _, fun _ _ => Nat.zero_le _⟩
  | cons x xs ih =>
    obtain ⟨hmono, hone⟩ := ih
    have hbreak : ∀ {used : Nat}, ((used + width x : Nat) : Int) > limit →
        (fillLine limit width used (x :: xs)).2.length =
          (fillLine limit width (width x) xs).2.length + 1 := by
      intro used h
      rw [fillLine, if_pos h]
      rfl
    have hstay : ∀ {used : Nat}, ¬((used + width x : Nat) : Int) > limit →
        (fillLine limit width used (x :: xs)).2.length =
          (fillLine limit width (used + width x) xs).2.length := by
      intro used h
      rw [fillLine, if_neg h]
    constructor
    · intro used used' hle
      by_cases h : ((used + width x : Nat) : Int) > limit
      · have h' : ((used' + width x : Nat) : Int) > limit := by omega
        rw [hbreak h, hbreak h']
      · rw [hstay h]
        by_cases h' : ((used' + width x : Nat) : Int) > limit
        · rw [hbreak h']
          exact hone _ _
        · rw [hstay h']
          exact hmono _ _ (Nat.add_le_add_right hle _)
    · intro used used'
      by_cases h' : ((used' + width x : Nat) : Int) > limit
      · rw [hbreak h']
        by_cases h : ((used + width x : Nat) : Int) > limit
        · rw [hbreak h]
          exact Nat.le_succ _
        · rw [hstay h]
          exact (hone _ _).trans (Nat.le_succ _)
      · rw [hstay h']
        by_cases h : ((used + width x : Nat) : Int) > limit
        · rw [hbreak h]
          exact Nat.succ_le_succ (hmono _ _ (Nat.le_add_left _ _))
        · rw [hstay h]
          exact hone _ _

/-- **Filling a line needs the fewest lines** of all ways to go on. -/
theorem length_fillLine_le (h : Continues limit width used xs line more) :
    (fillLine limit width used xs).2.length ≤ more.length := by
  induction xs generalizing used line more with
  | nil => exact Nat.zero_le _
  | cons x xs ih =>
    rw [fillLine]
    cases line with
    | nil =>
      -- the other way breaks here; filling may have gone on, which costs one line at most
      have hcut : IsCutting limit width (x :: xs) more := h.flatten ▸ h.cut
      obtain ⟨line', more', rfl⟩ := hcut.exists_cons
      have hrest := ih (isCutting_cons.mp hcut)
      by_cases hwide : ((used + width x : Nat) : Int) > limit
      · rw [if_pos hwide]
        exact Nat.succ_le_succ hrest
      · rw [if_neg hwide]
        exact ((length_fillLine_mono limit width xs).2 _ _).trans (Nat.succ_le_succ hrest)
    | cons y line =>
      obtain ⟨hflatten, hfits, hcut⟩ := h
      obtain ⟨rfl, htail⟩ : y = x ∧ line ++ more.flatten = xs := List.cons.inj hflatten
      have hfits := hfits.resolve_left (List.cons_ne_nil _ _)
      unfold totalWidth at hfits
      rw [List.map_cons, List.sum_cons] at hfits
      have hwide : ¬((used + width y : Nat) : Int) > limit := by omega
      rw [if_neg hwide]
      refine ih ⟨htail, .inr ?_, hcut⟩
      unfold totalWidth
      omega

/-- The lines that a list is cut into. -/
theorem isCutting_breakLines (limit : Int) (width : α → Nat) (xs : List α) :
    IsCutting limit width xs (breakLines limit width xs) := by
  cases xs with
  | nil => exact isCutting_nil
  | cons x xs => exact isCutting_cons.mpr (continues_fillLine xs (width x))

/-- **They are the fewest.** -/
theorem length_breakLines_le (h : IsCutting limit width xs lines) :
    (breakLines limit width xs).length ≤ lines.length := by
  cases xs with
  | nil => exact Nat.zero_le _
  | cons x xs =>
    obtain ⟨line, more, rfl⟩ := h.exists_cons
    exact Nat.succ_le_succ (length_fillLine_le (isCutting_cons.mp h))

end Cutting

/-! ## 3. Sequences -/

namespace Layout

theorem breaks_intercalate (sep : List Marker) (parts : List (List Marker)) :
    breaks (List.intercalate sep parts) =
      (parts.map breaks).sum + (parts.length - 1) * breaks sep := by
  cases parts with
  | nil => simp [List.intercalate]
  | cons part parts =>
    have hmore : breaks (parts.flatMap fun y => sep ++ y) =
        (parts.map breaks).sum + parts.length * breaks sep := by
      induction parts with
      | nil => simp
      | cons y parts ih =>
        rw [List.flatMap_cons, breaks_append, breaks_append, ih, List.map_cons, List.sum_cons,
          List.length_cons, Nat.add_mul]
        omega
    rw [intercalate_cons, breaks_append, hmore, List.map_cons, List.sum_cons, List.length_cons,
      Nat.add_sub_cancel]
    omega

/-- The breaks of lines: one between neighbours, and those inside the pieces. -/
theorem breaks_writeLines (lines : List (List Piece)) :
    breaks (writeLines lines) =
      (lines.flatten.map fun p => breaks p.markers).sum + (lines.length - 1) := by
  have hline : ∀ line : List Piece,
      breaks (List.intercalate [.whitespace] (line.map Piece.markers)) =
        (line.map fun p => breaks p.markers).sum := by
    intro line
    rw [breaks_intercalate, List.map_map]
    exact Nat.add_zero _
  rw [writeLines, breaks_intercalate, breaks_newLine, List.map_map, List.length_map, Nat.mul_one,
    List.map_flatten, List.sum_flatten, List.map_map]
  refine congrArg (· + _) (congrArg List.sum (List.map_congr_left fun line _ => ?_))
  exact hline line

/-- **A sequence is written on the fewest lines.** What is no item leaves no piece. The pieces are
    cut into lines and each is written once and in order, with a blank between the pieces of a line
    and one indented break between lines. Every line holds one piece alone or is as wide as the limit
    at most; any other way to cut the pieces into such lines has at least as many; and a wider limit
    never gives more lines or breaks. -/
theorem sequence_lines_fewest (pieces : List Piece) (limit : Int) :
    let lines (limit : Int) := breakLines limit Piece.width pieces
    (∀ items, (Layout.sequence items limit).markers =
      writeSequence limit ((items.filter isItem).map piece)) ∧
    writeSequence limit pieces = writeLines (lines limit) ∧
    IsCutting limit Piece.width pieces (lines limit) ∧
    (∀ others, IsCutting limit Piece.width pieces others →
      (lines limit).length ≤ others.length) ∧
    breaks (writeSequence limit pieces) =
      (pieces.map fun p => breaks p.markers).sum + ((lines limit).length - 1) ∧
    ∀ wider, limit ≤ wider →
      (lines wider).length ≤ (lines limit).length ∧
        breaks (writeSequence wider pieces) ≤ breaks (writeSequence limit pieces) := by
  intro lines
  have hbreaks : ∀ limit, breaks (writeSequence limit pieces) =
      (pieces.map fun p => breaks p.markers).sum + ((lines limit).length - 1) := by
    intro limit
    rw [writeSequence, breaks_writeLines, (isCutting_breakLines limit _ _).flatten]
  have hitems : ∀ items, (Layout.sequence items limit).markers =
      writeSequence limit ((items.filter isItem).map piece) := by
    intro items
    rw [markers, pieces_eq_map]
  have hcutting : IsCutting limit Piece.width pieces (lines limit) :=
    isCutting_breakLines limit Piece.width pieces
  refine ⟨hitems, rfl, hcutting, fun _ => length_breakLines_le, hbreaks limit, fun wider hle => ?_⟩
  have hfewer : (lines wider).length ≤ (lines limit).length :=
    length_breakLines_le (hcutting.mono hle)
  refine ⟨hfewer, ?_⟩
  rw [hbreaks, hbreaks]
  omega

/-- Three names, and a group with nothing in it, which is as wide as nothing. -/
def samplePieces : List Piece :=
  [⟨5, [.identifier "alpha"]⟩, ⟨0, []⟩, ⟨5, [.identifier "gamma"]⟩, ⟨5, [.identifier "delta"]⟩]

theorem sequence_lines_fewest_names :
    IsCutting 8 Piece.width samplePieces (samplePieces.map fun p => [p]) ∧
      (breakLines 8 Piece.width samplePieces).length ≤ 4 ∧ (8 : Int) ≤ 12 ∧
      (breakLines 12 Piece.width samplePieces).length ≤
        (breakLines 8 Piece.width samplePieces).length ∧
      (breakLines 12 Piece.width samplePieces).length = 2 ∧
      (breakLines 8 Piece.width samplePieces).length = 3 := by
  have hcutting : IsCutting 8 Piece.width samplePieces (samplePieces.map fun p => [p]) :=
    ⟨rfl, by simp [samplePieces], by simp [samplePieces, IsNarrow]⟩
  obtain ⟨-, -, -, hfewest, -, hwider⟩ := sequence_lines_fewest samplePieces 8
  exact ⟨hcutting, hfewest _ hcutting, by decide, (hwider 12 (by decide)).1, by decide, by decide⟩

end Layout

end GrammarManual
