import GrammarManual.Proofs.Cuttings

/-!
# Proofs/OneLine: what fits is not broken

A sequence decides by the widths of its items alone where it breaks, and each sequence of a body
does so for itself. None of them is longer than the body, so none breaks where the body fits.

* `Layout.OnOneLine` -- a layout that is written on one line; one lemma for each way to build one.
  A sequence is on one line as soon as it is no longer than the limit (`onOneLine_sequence`);
* `Expr.onOneLine_layout` -- an expression inside a body that fits is on one line;
* **`fitting_body_unbroken`** -- a body that fits has no breaks but those before its alternatives.
-/

namespace GrammarManual

namespace Layout

/-! ## 1. Layouts -/

/-- A layout that is written on one line. -/
def OnOneLine (l : Layout) : Prop := l.markers = l.flat

theorem length_le_totalLength {l : Layout} {ls : List Layout} (h : l ∈ ls) :
    l.length ≤ totalLength ls := by
  induction ls with
  | nil => exact absurd h List.not_mem_nil
  | cons x xs ih =>
    rw [totalLength]
    rcases List.mem_cons.mp h with rfl | h
    · exact Nat.le_add_right _ _
    · exact (ih h).trans (Nat.le_add_left _ _)

/-- Pieces that fit on the line under way follow it, each behind a blank. -/
theorem moreMarks_fitting {limit : Int} {ls : List Layout} {used : Nat}
    (h : ((used + totalLength ls : Nat) : Int) ≤ limit) :
    moreMarks limit used (ls.map piece) = ls.flatMap fun l => .whitespace :: l.markers := by
  induction ls generalizing used with
  | nil => rfl
  | cons l ls ih =>
    have hwidth : l.piece.width = l.length := rfl
    rw [totalLength] at h
    have hfits : ¬((used + l.piece.width : Nat) : Int) > limit := by
      rw [hwidth]
      omega
    have hmore : ((used + l.piece.width + totalLength ls : Nat) : Int) ≤ limit := by
      rw [hwidth]
      omega
    rw [List.map_cons, moreMarks, if_neg hfits, ih hmore, List.flatMap_cons]
    rfl

/-- **A sequence that fits is on one line**, if its items are. -/
theorem onOneLine_sequence {ls : List Layout} (h : ∀ l ∈ ls, l.OnOneLine) {limit : Int}
    (hfits : ((Layout.sequence ls limit).length : Int) ≤ limit) :
    (Layout.sequence ls limit).OnOneLine := by
  have hitems : ∀ l ∈ ls.filter isItem, l.markers = l.flat := fun l hl =>
    h l (List.mem_filter.mp hl).1
  rw [length, totalLength_filter] at hfits
  unfold OnOneLine
  rw [markers, flat, pieces_eq_map, flatItems_eq_map, ← List.map_congr_left hitems]
  generalize ls.filter isItem = items at hfits ⊢
  cases items with
  | nil => rfl
  | cons l more =>
    rw [totalLength] at hfits
    have hmore : ((l.piece.width + totalLength more : Nat) : Int) ≤ limit := by
      have hwidth : l.piece.width = l.length := rfl
      rw [hwidth]
      omega
    rw [List.map_cons, List.map_cons, writeSequence_cons, intercalate_cons, List.flatMap_map,
      moreMarks_fitting hmore]
    rfl

theorem onOneLine_beside {ls : List Layout} (h : ∀ l ∈ ls, l.OnOneLine) :
    (Layout.beside ls).OnOneLine := by
  unfold OnOneLine
  rw [markers, flat, markersOf_eq_map, flatAll_eq_map, List.map_congr_left h]

theorem onOneLine_bracketed {ls : List Layout} (h : ∀ l ∈ ls, l.OnOneLine) :
    (Layout.choice ls true).OnOneLine := by
  have hbar : separator true = bar := rfl
  unfold OnOneLine
  rw [markers, flat, markersOf_eq_map, flatAll_eq_map, List.map_congr_left h, writeChoice_eq, hbar]

/-- A group without brackets has no bar to write. -/
theorem onOneLine_bare {ls : List Layout} (h : ∀ l ∈ ls, l.OnOneLine) (hone : ls.length ≤ 1) :
    (Layout.choice ls false).OnOneLine := by
  unfold OnOneLine
  rw [markers, flat, markersOf_eq_map, flatAll_eq_map, List.map_congr_left h, writeChoice_eq]
  match ls, hone with
  | [], _ => rfl
  | [l], _ => rw [List.map_singleton, List.intercalate_singleton, List.intercalate_singleton]

/-- A layout on one line is no longer than its length, which leaves no room for a break. -/
theorem Fits.breaks_eq_zero {l : Layout} (h : l.Fits) (hline : l.OnOneLine) :
    breaks l.markers = 0 := by
  have hextent : extent l.markers = l.length + 4 * breaks l.markers := h
  have hflat : extent l.markers = l.length := by rw [hline, extent_flat]
  omega

end Layout

/-! ## 2. Expressions -/

namespace Expr

open Layout

variable (v : View) (mode : Mode)

/-- A group inside a body keeps its brackets, or it has no bar to write. -/
theorem onOneLine_group {es : List Expr} {depth : Nat}
    (h : ∀ l ∈ layoutAll v mode (depth + 2) es, l.OnOneLine) :
    (Layout.choice (layoutAll v mode (depth + 2) es) (needsBrackets (depth + 1) es)).OnOneLine := by
  rw [needsBrackets_eq]
  cases hkeeps : keepsBrackets es with
  | true => exact onOneLine_bracketed h
  | false => exact onOneLine_bare h (length_layoutAll_bare v mode hkeeps _)

/-- Alternatives are no longer than their group. -/
theorem fits_alternatives {es : List Expr} {depth : Nat} {brackets : Bool}
    (h : ((Layout.choice (layoutAll v mode depth es) brackets).length : Int) ≤ v.limit) :
    (totalLength (layoutAll v mode depth es) : Int) ≤ v.limit := by
  rw [Layout.length] at h
  omega

theorem fits_part {l : Layout} {parts : List Layout} {limit : Int} (hl : l ∈ parts)
    (h : ((Layout.beside parts).length : Int) ≤ limit) : (l.length : Int) ≤ limit := by
  have hle := length_le_totalLength hl
  rw [Layout.length] at h
  omega

mutual

/-- **An expression that fits** is on one line, inside a body. -/
theorem onOneLine_layout : ∀ (e : Expr) (depth : Nat),
    ((e.layout v mode (depth + 1)).length : Int) ≤ v.limit →
      (e.layout v mode (depth + 1)).OnOneLine
  | .sequence items, depth, h => by
      have hitems : (totalLength (layoutAll v mode (depth + 1) items) : Int) ≤ v.limit := by
        rw [Expr.layout, Layout.length] at h
        omega
      exact onOneLine_sequence (onOneLine_layoutAll items depth hitems) h
  | .choice alternatives, depth, h =>
    onOneLine_group v mode
      (onOneLine_layoutAll alternatives (depth + 1) (fits_alternatives v mode h))
  | .tokenSet members, depth, h =>
    onOneLine_group v mode (onOneLine_layoutAll members (depth + 1) (fits_alternatives v mode h))
  | .repeated operand times greedy, depth, h => by
      have hoperand := onOneLine_layout operand depth (fits_part List.mem_cons_self h)
      have hlazy : (lazyMark greedy).OnOneLine := by cases greedy <;> rfl
      exact onOneLine_beside (List.forall_mem_cons.mpr ⟨hoperand,
        List.forall_mem_cons.mpr ⟨rfl, List.forall_mem_singleton.mpr hlazy⟩⟩)
  | .negated operand, depth, h => by
      have hoperand := onOneLine_layout operand depth
        (fits_part (List.mem_cons_of_mem _ List.mem_cons_self) h)
      exact onOneLine_beside
        (List.forall_mem_cons.mpr ⟨rfl, List.forall_mem_singleton.mpr hoperand⟩)
  | .range first last, depth, h => by
      have hfirst := onOneLine_layout first depth (fits_part List.mem_cons_self h)
      have hlast := onOneLine_layout last depth
        (fits_part (List.mem_cons_of_mem _ (List.mem_cons_of_mem _ List.mem_cons_self)) h)
      exact onOneLine_beside (List.forall_mem_cons.mpr ⟨hfirst,
        List.forall_mem_cons.mpr ⟨rfl, List.forall_mem_singleton.mpr hlast⟩⟩)
  | .reference name, _, _ => rfl
  | .literal text, _, _ => by
      rw [Expr.layout, View.literal_eq]
      cases v.literals.shown? mode text <;> rfl
  | .charset text, _, _ => rfl
  | .wildcard, _, _ => rfl
  | .predicate _, _, _ => rfl
  | .action _, _, _ => rfl
  | .foreign, _, _ => rfl

theorem onOneLine_layoutAll : ∀ (es : List Expr) (depth : Nat),
    (totalLength (layoutAll v mode (depth + 1) es) : Int) ≤ v.limit →
      ∀ l ∈ layoutAll v mode (depth + 1) es, l.OnOneLine
  | [], _, _ => fun _ h => absurd h List.not_mem_nil
  | e :: es, depth, h => by
      rw [layoutAll, totalLength] at h
      exact List.forall_mem_cons.mpr
        ⟨onOneLine_layout e depth (by omega), onOneLine_layoutAll es depth (by omega)⟩

end

end Expr

/-! ## 3. Bodies -/

/-- **A rule that fits is never broken.** If a body is no longer than a line may be, every
    alternative of it is written on one line, at any depth, and the only breaks are those before all
    alternatives but the first. -/
theorem fitting_body_unbroken {H : Type} {r : Rule} {alternatives : List Expr}
    (hbody : r.body = .choice alternatives) (hplain : r.body.isPlain = true) (v : View) (mode : Mode)
    (m : UsageMap H) :
    ∃ l m', runFrom (r.walkBody v mode) m = (.ok l, m') ∧
      ((l.length : Int) ≤ v.limit →
        l.markers = List.intercalate (Layout.newLine 2 ++ [.symbol "|", .whitespace])
          (alternatives.map fun e => (e.layout v mode 1).flat) ∧
        (∀ e ∈ alternatives, .lineBreak ∉ (e.layout v mode 1).flat) ∧
        breaks l.markers = alternatives.length - 1) := by
  have hrun := r.walkBody_run v mode m
  rw [if_pos hplain] at hrun
  refine ⟨_, _, hrun, fun hlength => ?_⟩
  rw [hbody] at hlength ⊢
  have hlines := Expr.onOneLine_layoutAll v mode alternatives 0
    (Expr.fits_alternatives v mode hlength)
  have hfits := Expr.fits_layoutAll v mode alternatives 0
  rw [Expr.layoutAll_eq_map] at hlines hfits
  have hline : ∀ e ∈ alternatives, (e.layout v mode 1).markers = (e.layout v mode 1).flat :=
    List.forall_mem_map.mp hlines
  have hnone : ∀ e ∈ alternatives, breaks (e.layout v mode 1).flat = 0 := by
    intro e he
    have hl := List.mem_map_of_mem (f := Expr.layout v mode 1) he
    rw [← hline e he]
    exact (hfits _ hl).breaks_eq_zero (hlines _ hl)
  have hwhole : ((Expr.choice alternatives).layout v mode 0).markers =
      List.intercalate (Layout.newLine 2 ++ [.symbol "|", .whitespace])
        (alternatives.map fun e => (e.layout v mode 1).flat) := by
    rw [← List.map_congr_left hline, Expr.layout, Layout.markers, Layout.markersOf_eq_map,
      Expr.layoutAll_eq_map, List.map_map]
    rfl
  refine ⟨hwhole, fun e he => List.count_eq_zero.mp (hnone e he), ?_⟩
  have hone : breaks (Layout.newLine 2 ++ [.symbol "|", .whitespace]) = 1 := by decide
  have hsum : ((alternatives.map fun e => (e.layout v mode 1).flat).map breaks).sum = 0 :=
    List.sum_eq_zero (List.forall_mem_map.mpr (List.forall_mem_map.mpr hnone))
  rw [hwhole, Layout.breaks_intercalate, hsum, hone, List.length_map, Nat.zero_add, Nat.mul_one]

/-- The wrapped rule takes sixteen characters: a line of sixteen holds it. -/
theorem fitting_body_unbroken_wrapped : ∃ (l : Layout) (m : UsageMap Nat),
    runFrom (Rule.wrapped.walkBody { limit := 16 } .parser) .empty = (.ok l, m) ∧ l.length = 16 ∧
      l.markers = List.intercalate (Layout.newLine 2 ++ [.symbol "|", .whitespace])
        [[.symbol "(", .identifier "a", .whitespace, .symbol "|", .whitespace, .symbol ")",
          .symbol "?", .symbol "?"], [.string "'b'", .whitespace, .identifier "c"]] ∧
      breaks l.markers = 1 := by
  obtain ⟨l, m, hrun, hunbroken⟩ := fitting_body_unbroken (H := Nat) (r := Rule.wrapped) rfl
    (by decide) { limit := 16 } .parser .empty
  have hl : l = Rule.wrapped.body.layout { limit := 16 } .parser 0 := by
    have hwalk := Rule.wrapped.walkBody_run (H := Nat) { limit := 16 } .parser .empty
    rw [hrun] at hwalk
    exact Except.ok.inj (congrArg Prod.fst hwalk)
  have hlength : l.length = 16 := by
    rw [hl]
    decide
  obtain ⟨hmarkers, -, hbreaks⟩ := hunbroken (by rw [hlength]; decide)
  exact ⟨l, m, hrun, hlength, hmarkers, hbreaks⟩

end GrammarManual
