import GrammarManual.Proofs.Reread
import Mathlib.Algebra.GroupWithZero.Nat

/-!
# Proofs/Widths: how many characters a body takes

The length of a layout is computed from its parts and never measured. Here it is measured:

* `extent`, `breaks` -- the characters that marks take, and the line breaks among them;
* `extent_flat` -- a layout on one line takes as many characters as its length says;
* `Layout.Fits` -- inside a group, every line break costs four characters more, the indentation
  behind it. One lemma for each way to build a layout;
* **`body_extent`** -- a whole body takes its length, and four characters for every line break, less
  two for every alternative but the first.
-/

namespace GrammarManual

/-! ## 1. Characters of marks -/

/-- The characters that a mark takes: one for a blank or a break, else those of its text. -/
def Marker.extent : Marker → Nat
  | .whitespace | .lineBreak => 1
  | .symbol text | .string text | .other text | .remark text => text.length
  | .identifier name | .declaration name => name.length
  | .usages _ | .description | .endDescription => 0

/-- The characters that marks take. -/
def extent (marks : List Marker) : Nat := (marks.map Marker.extent).sum

/-- The line breaks among marks. -/
def breaks (marks : List Marker) : Nat := marks.count .lineBreak

@[simp] theorem extent_nil : extent [] = 0 := rfl

@[simp] theorem extent_cons (mark : Marker) (marks : List Marker) :
    extent (mark :: marks) = mark.extent + extent marks := by
  simp [extent]

@[simp] theorem extent_append (xs ys : List Marker) :
    extent (xs ++ ys) = extent xs + extent ys := by
  simp [extent]

@[simp] theorem breaks_nil : breaks [] = 0 := rfl

@[simp] theorem breaks_append (xs ys : List Marker) :
    breaks (xs ++ ys) = breaks xs + breaks ys := List.count_append

theorem extent_newLine (indent : Nat) : extent (Layout.newLine indent) = indent + 1 := by
  simp [Layout.newLine, extent, Marker.extent]
  omega

theorem breaks_newLine (indent : Nat) : breaks (Layout.newLine indent) = 1 := by
  simp [Layout.newLine, breaks, List.count_replicate]

namespace Layout

theorem totalLength_eq_sum (ls : List Layout) : totalLength ls = (ls.map length).sum := by
  induction ls with
  | nil => rfl
  | cons l ls ih => rw [totalLength, ih, List.map_cons, List.sum_cons]

/-! ## 2. One line -/

/-- Pieces behind the first, each behind a separator. -/
theorem extent_flatMap {α : Type} (sep : List Marker) (marks : α → List Marker) {width : α → Nat}
    {as : List α} (h : ∀ a ∈ as, extent (marks a) = width a) :
    extent (as.flatMap fun a => sep ++ marks a) =
      (as.map width).sum + as.length * extent sep := by
  induction as with
  | nil => simp
  | cons a as ih =>
    have ha := h a List.mem_cons_self
    have has := ih fun b hb => h b (List.mem_cons_of_mem _ hb)
    rw [List.flatMap_cons, extent_append, extent_append, ha, has, List.map_cons, List.sum_cons,
      List.length_cons, Nat.add_mul]
    omega

/-- Pieces with a separator between neighbours. -/
theorem extent_intercalate (sep : List Marker) {ls : List Layout}
    (h : ∀ l ∈ ls, extent l.flat = l.length) :
    extent (List.intercalate sep (ls.map flat)) =
      (ls.map length).sum + (ls.length - 1) * extent sep := by
  cases ls with
  | nil => simp [List.intercalate]
  | cons l ls =>
    have hl := h l List.mem_cons_self
    have hls := extent_flatMap sep flat fun x hx =>
      h x (List.mem_cons_of_mem l hx)
    rw [List.map_cons, intercalate_cons, List.flatMap_map, extent_append, hl, hls, List.map_cons,
      List.sum_cons, List.length_cons, Nat.add_sub_cancel]
    omega

mutual

/-- **A layout on one line takes as many characters as its length says.** -/
theorem extent_flat : ∀ l : Layout, extent l.flat = l.length
  | .nothing => rfl
  | .symbol text => by simp [flat, length, Marker.extent]
  | .string text => by simp [flat, length, Marker.extent]
  | .identifier name => by simp [flat, length, Marker.extent]
  | .beside parts => by
      have hparts := extent_flat_all parts
      rw [flat, length, flatAll_eq_map, totalLength_eq_sum]
      have hjoin := extent_flatMap [] flat hparts
      simpa [List.flatMap] using hjoin
  | .sequence items limit => by
      have hitems : ∀ l ∈ items.filter isItem, extent l.flat = l.length := fun l hl =>
        extent_flat_all items l (List.mem_filter.mp hl).1
      have hjoin := extent_intercalate [.whitespace] hitems
      rw [flat, length, flatItems_eq_map, hjoin, totalLength_filter, totalLength_eq_sum]
      simp [Marker.extent]
  | .choice alternatives brackets => by
      have hjoin := extent_intercalate bar (extent_flat_all alternatives)
      have hbar : extent bar = 3 := by decide
      rw [hbar] at hjoin
      rw [flat, length, flatAll_eq_map, totalLength_eq_sum, extent_append, extent_append, hjoin]
      cases brackets with
      | true =>
        have hopen : extent [.symbol "("] = 1 := by decide
        have hclose : extent [.symbol ")"] = 1 := by decide
        simp only [if_true, hopen, hclose]
        omega
      | false =>
        simp only [Bool.false_eq_true, if_false, extent_nil]
        omega

theorem extent_flat_all : ∀ (ls : List Layout), ∀ l ∈ ls, extent l.flat = l.length
  | [] => fun _ h => absurd h List.not_mem_nil
  | x :: xs => List.forall_mem_cons.mpr ⟨extent_flat x, extent_flat_all xs⟩

end

/-! ## 3. Lines inside groups -/

/-- A layout whose marks take its length, and four characters for every line break. -/
def Fits (l : Layout) : Prop := extent l.markers = l.length + 4 * breaks l.markers

theorem extent_moreMarks {ls : List Layout} (h : ∀ l ∈ ls, l.Fits) (limit : Int) (used : Nat) :
    extent (moreMarks limit used (ls.map piece)) =
      (ls.map length).sum + ls.length + 4 * breaks (moreMarks limit used (ls.map piece)) := by
  induction ls generalizing used with
  | nil => rfl
  | cons l ls ih =>
    have hl : extent l.markers = l.length + 4 * breaks l.markers := h l List.mem_cons_self
    have hls := fun used => ih (fun x hx => h x (List.mem_cons_of_mem _ hx)) used
    have hpiece : l.piece.markers = l.markers := rfl
    rw [List.map_cons, moreMarks, hpiece]
    split
    · have hrest := hls l.piece.width
      have hbreak := extent_newLine continuationIndent
      have hone := breaks_newLine continuationIndent
      have hindent : continuationIndent = 4 := rfl
      simp only [extent_append, breaks_append, List.map_cons, List.sum_cons, List.length_cons]
      omega
    · have hrest := hls (used + l.piece.width)
      have hblank : breaks (.whitespace :: l.markers ++
          moreMarks limit (used + l.piece.width) (ls.map piece)) =
            breaks l.markers + breaks (moreMarks limit (used + l.piece.width) (ls.map piece)) := by
        simp [breaks]
      rw [hblank]
      simp only [extent_append, extent_cons, Marker.extent, List.map_cons, List.sum_cons,
        List.length_cons]
      omega

theorem fits_sequence {ls : List Layout} (h : ∀ l ∈ ls, l.Fits) (limit : Int) :
    (Layout.sequence ls limit).Fits := by
  have hitems : ∀ l ∈ ls.filter isItem, l.Fits := fun l hl => h l (List.mem_filter.mp hl).1
  unfold Fits
  rw [markers, length, pieces_eq_map, totalLength_filter, totalLength_eq_sum]
  cases hls : ls.filter isItem with
  | nil => rfl
  | cons l more =>
    rw [hls] at hitems
    have hl : extent l.markers = l.length + 4 * breaks l.markers := hitems l List.mem_cons_self
    have hmore := extent_moreMarks (fun x hx => hitems x (List.mem_cons_of_mem _ hx)) limit
      l.piece.width
    have hpiece : l.piece.markers = l.markers := rfl
    rw [List.map_cons, writeSequence_cons, hpiece, extent_append, breaks_append, List.map_cons,
      List.sum_cons, List.length_cons]
    omega

/-- Alternatives behind the first, each behind a bar. -/
theorem extent_alternatives {ls : List Layout} (h : ∀ l ∈ ls, l.Fits) (brackets : Bool) :
    extent (ls.flatMap fun l => separator brackets ++ l.markers) +
        4 * ls.length * breaks (separator brackets) =
      (ls.map length).sum + ls.length * extent (separator brackets) +
        4 * breaks (ls.flatMap fun l => separator brackets ++ l.markers) := by
  induction ls with
  | nil => simp
  | cons l ls ih =>
    have hl : extent l.markers = l.length + 4 * breaks l.markers := h l List.mem_cons_self
    have hls := ih fun x hx => h x (List.mem_cons_of_mem _ hx)
    simp only [List.flatMap_cons, extent_append, breaks_append, List.map_cons, List.sum_cons,
      List.length_cons, Nat.mul_add, Nat.add_mul] at hls ⊢
    omega

theorem fits_bracketed {ls : List Layout} (h : ∀ l ∈ ls, l.Fits) :
    (Layout.choice ls true).Fits := by
  unfold Fits
  rw [markers, length, markersOf_eq_map, totalLength_eq_sum]
  cases ls with
  | nil => rfl
  | cons l more =>
    have hl : extent l.markers = l.length + 4 * breaks l.markers := h l List.mem_cons_self
    have hmore := extent_alternatives (fun x hx => h x (List.mem_cons_of_mem _ hx)) true
    have hbar : extent (separator true) = 3 := by decide
    have hnone : breaks (separator true) = 0 := by decide
    have hopen : extent [.symbol "("] = 1 ∧ breaks [.symbol "("] = 0 := by decide
    have hclose : extent [.symbol ")"] = 1 ∧ breaks [.symbol ")"] = 0 := by decide
    rw [hbar, hnone] at hmore
    rw [List.map_cons, writeChoice_cons, List.flatMap_map]
    simp only [if_true, extent_append, breaks_append, List.map_cons, List.sum_cons,
      List.length_cons, Nat.add_sub_cancel]
    omega

/-- A group without brackets comes down to its only alternative. -/
theorem fits_bare {ls : List Layout} (h : ∀ l ∈ ls, l.Fits) (hone : ls.length ≤ 1) :
    (Layout.choice ls false).Fits := by
  match ls with
  | [] => rfl
  | [l] =>
    have hl : l.Fits := h l List.mem_cons_self
    have hmarks : (Layout.choice [l] false).markers = l.markers :=
      congrArg Piece.markers (piece_bare l)
    have hlength : (Layout.choice [l] false).length = l.length :=
      congrArg Piece.width (piece_bare l)
    unfold Fits at hl ⊢
    rw [hmarks, hlength]
    exact hl
  | _ :: _ :: _ => simp at hone

theorem fits_beside {ls : List Layout} (h : ∀ l ∈ ls, l.Fits) : (Layout.beside ls).Fits := by
  unfold Fits
  rw [markers, length, markersOf_eq_map]
  induction ls with
  | nil => rfl
  | cons l ls ih =>
    have hl : extent l.markers = l.length + 4 * breaks l.markers := h l List.mem_cons_self
    have hls := ih fun x hx => h x (List.mem_cons_of_mem _ hx)
    rw [List.map_cons, List.flatten_cons, extent_append, breaks_append, totalLength]
    omega

theorem fits_nothing : Layout.nothing.Fits := rfl

theorem fits_symbol (text : String) : (Layout.symbol text).Fits := by
  simp [Fits, markers, length, Marker.extent, breaks]

theorem fits_string (text : String) : (Layout.string text).Fits := by
  simp [Fits, markers, length, Marker.extent, breaks]

theorem fits_identifier (name : String) : (Layout.identifier name).Fits := by
  simp [Fits, markers, length, Marker.extent, breaks]

theorem fits_repeated {l : Layout} (h : l.Fits) (times : Repetition) (greedy : Bool) :
    (l.repeated times greedy).Fits := by
  have hlazy : (lazyMark greedy).Fits := by
    cases greedy with
    | true => exact fits_nothing
    | false => exact fits_symbol "?"
  refine fits_beside fun x hx => ?_
  simp only [List.mem_cons, List.not_mem_nil, or_false] at hx
  rcases hx with rfl | rfl | rfl
  · exact h
  · exact fits_symbol _
  · exact hlazy

theorem fits_negated {l : Layout} (h : l.Fits) : l.negated.Fits := by
  refine fits_beside fun x hx => ?_
  simp only [List.mem_cons, List.not_mem_nil, or_false] at hx
  rcases hx with rfl | rfl
  · exact fits_symbol _
  · exact h

theorem fits_range {first last : Layout} (hf : first.Fits) (hl : last.Fits) :
    (Layout.range first last).Fits := by
  refine fits_beside fun x hx => ?_
  simp only [List.mem_cons, List.not_mem_nil, or_false] at hx
  rcases hx with rfl | rfl | rfl
  · exact hf
  · exact fits_string _
  · exact hl

theorem fits_charset (text : String) : (Layout.charset text).Fits := by
  refine fits_beside fun x hx => ?_
  simp only [List.mem_cons, List.not_mem_nil, or_false] at hx
  rcases hx with rfl | rfl | rfl
  · exact fits_symbol _
  · exact fits_string _
  · exact fits_symbol _

end Layout

/-! ## 4. Bodies -/

namespace Expr

open Layout

variable (v : View) (mode : Mode)

/-- A group without brackets has one alternative at most. -/
theorem length_layoutAll_bare {es : List Expr} (h : keepsBrackets es = false) (depth : Nat) :
    (layoutAll v mode depth es).length ≤ 1 := by
  rw [layoutAll_eq_map, List.length_map]
  match es with
  | [] | [_] => simp
  | _ :: _ :: _ => simp [keepsBrackets] at h

theorem fits_group {es : List Expr} {depth : Nat}
    (h : ∀ l ∈ layoutAll v mode (depth + 2) es, l.Fits) :
    (Layout.choice (layoutAll v mode (depth + 2) es) (needsBrackets (depth + 1) es)).Fits := by
  rw [needsBrackets_eq]
  cases hkeeps : keepsBrackets es with
  | true => exact fits_bracketed h
  | false => exact fits_bare h (length_layoutAll_bare v mode hkeeps _)

mutual

/-- **An expression inside a body** takes its length, and four characters for every line break. -/
theorem fits_layout : ∀ (e : Expr) (depth : Nat), (e.layout v mode (depth + 1)).Fits
  | .sequence items, depth => fits_sequence (fits_layoutAll items depth) v.limit
  | .choice alternatives, depth => fits_group v mode (fits_layoutAll alternatives (depth + 1))
  | .tokenSet members, depth => fits_group v mode (fits_layoutAll members (depth + 1))
  | .repeated operand times greedy, depth => fits_repeated (fits_layout operand depth) times greedy
  | .negated operand, depth => fits_negated (fits_layout operand depth)
  | .range first last, depth => fits_range (fits_layout first depth) (fits_layout last depth)
  | .reference name, _ => fits_identifier name
  | .literal text, _ => by
      rw [Expr.layout, View.literal_eq]
      cases v.literals.shown? mode text with
      | none => exact fits_string text
      | some token => exact fits_identifier token
  | .charset text, _ => fits_charset text
  | .wildcard, _ => fits_symbol "."
  | .predicate _, _ => fits_nothing
  | .action _, _ => fits_nothing
  | .foreign, _ => fits_nothing

theorem fits_layoutAll : ∀ (es : List Expr) (depth : Nat),
    ∀ l ∈ layoutAll v mode (depth + 1) es, l.Fits
  | [], _ => fun _ h => absurd h List.not_mem_nil
  | e :: es, depth =>
    List.forall_mem_cons.mpr ⟨fits_layout e depth, fits_layoutAll es depth⟩

end

/-- The alternatives of a whole body stand on lines of their own, behind two blanks and a bar. -/
theorem extent_body {alternatives : List Expr} (hne : alternatives ≠ []) :
    extent ((Expr.choice alternatives).layout v mode 0).markers + 2 * (alternatives.length - 1) =
      ((Expr.choice alternatives).layout v mode 0).length +
        4 * breaks ((Expr.choice alternatives).layout v mode 0).markers := by
  have htop : needsBrackets 0 alternatives = false := rfl
  have hall := fits_layoutAll v mode alternatives 0
  have hcount : (layoutAll v mode 1 alternatives).length = alternatives.length := by
    rw [layoutAll_eq_map, List.length_map]
  rw [Expr.layout, htop, markers, length, markersOf_eq_map, totalLength_eq_sum, hcount]
  cases hls : layoutAll v mode 1 alternatives with
  | nil =>
    rw [hls] at hcount
    exact absurd (List.length_eq_zero_iff.mp hcount.symm) hne
  | cons l more =>
    rw [hls] at hall hcount
    have hl : extent l.markers = l.length + 4 * breaks l.markers := hall l List.mem_cons_self
    have hmore := extent_alternatives (fun x hx => hall x (List.mem_cons_of_mem _ hx)) false
    have hbar : extent (separator false) = 5 := by decide
    have hone : breaks (separator false) = 1 := by decide
    rw [hbar, hone] at hmore
    rw [List.length_cons] at hcount
    rw [List.map_cons, writeChoice_cons, List.flatMap_map]
    simp only [Bool.false_eq_true, if_false, List.nil_append, List.append_nil, extent_append,
      breaks_append, List.map_cons, List.sum_cons]
    omega

end Expr

/-- **How many characters a body takes**: its length, and four for every line break in it, less two
    for every alternative but the first; and its length alone once a blank stands in the place of
    every line break with its indentation. -/
theorem body_extent {H : Type} {r : Rule} {alternatives : List Expr}
    (hbody : r.body = .choice alternatives) (hne : alternatives ≠ [])
    (hplain : r.body.isPlain = true) (v : View) (mode : Mode) (m : UsageMap H) :
    ∃ l m', runFrom (r.walkBody v mode) m = (.ok l, m') ∧
      extent l.markers + 2 * (alternatives.length - 1) = l.length + 4 * breaks l.markers ∧
      extent (unwrap l.markers) = l.length := by
  have hrun := r.walkBody_run v mode m
  rw [if_pos hplain] at hrun
  refine ⟨_, _, hrun, ?_, ?_⟩
  · rw [hbody]
    exact Expr.extent_body v mode hne
  · have hunwrap := Layout.unwrap_markers (r.body.layout v mode 0) []
    rw [List.append_nil] at hunwrap
    rw [hunwrap, extent_append, Layout.extent_flat]
    rfl

/-- A rule with two alternatives: the first has an optional group in it, the second is too long for
    a line of two characters. -/
def Rule.wrapped : Rule where
  name := "r"
  body := .choice
    [.sequence [.repeated (.choice [.sequence [.reference "a"], .sequence []]) .optional false],
      .sequence [.literal "'b'", .action "{}", .reference "c"]]

theorem body_extent_wrapped : ∃ (l : Layout) (m : UsageMap Nat),
    runFrom (Rule.wrapped.walkBody { limit := 2 } .parser) .empty = (.ok l, m) ∧
      breaks l.markers = 2 ∧ extent l.markers + 2 * (2 - 1) = l.length + 4 * breaks l.markers ∧
      extent (unwrap l.markers) = l.length := by
  obtain ⟨l, m, hrun, hextent, hunwrap⟩ := body_extent (H := Nat) (r := Rule.wrapped) rfl
    (List.cons_ne_nil _ _) (by decide) { limit := 2 } .parser .empty
  have hlayout : (Rule.wrapped.body.layout { limit := 2 } .parser 0).markers.count .lineBreak = 2 :=
    by decide
  have hl : l = Rule.wrapped.body.layout { limit := 2 } .parser 0 := by
    have hwalk := Rule.wrapped.walkBody_run (H := Nat) { limit := 2 } .parser .empty
    rw [hrun] at hwalk
    exact Except.ok.inj (congrArg Prod.fst hwalk)
  exact ⟨l, m, hrun, hl ▸ hlayout, hextent, hunwrap⟩

end GrammarManual
