import GrammarManual.Markup.Layout

/-!
# Proofs/Lines: the marks of a layout, piece by piece

* `moreMarks`, **`writeSequence_cons`** -- a sequence is its first piece and, before every further
  one, a blank or a line break, as a running width decides;
* `writeChoice_cons` -- alternatives in the same form;
* `mem_writeSequence`, `mem_writeChoice` -- which marks they hold;
* `Layout.isBody_of_mem` -- the marks of a body are blanks, breaks, symbols, strings and names.
-/

namespace GrammarManual

namespace Layout

/-! ## 1. Pieces in a row -/

theorem intercalate_cons {α : Type} (sep x : List α) (xs : List (List α)) :
    List.intercalate sep (x :: xs) = x ++ xs.flatMap fun y => sep ++ y := by
  induction xs generalizing x with
  | nil => simp [List.intercalate]
  | cons y ys ih =>
    have h := ih y
    rw [List.intercalate_cons_cons, h, List.flatMap_cons]
    simp only [List.append_assoc]

/-- What follows the pieces of a line that is `used` wide: every piece behind a blank or, where it
    would push the line over the limit, behind a break. -/
def moreMarks (limit : Int) : Nat → List Piece → List Marker
  | _, [] => []
  | used, p :: ps =>
    if (used + p.width : Nat) > limit then
      newLine continuationIndent ++ p.markers ++ moreMarks limit p.width ps
    else .whitespace :: p.markers ++ moreMarks limit (used + p.width) ps

theorem writeLines_single (p : Piece) : writeLines [[p]] = p.markers := by
  simp [writeLines, List.intercalate]

theorem writeLines_blank (p q : Piece) (line : List Piece) (more : List (List Piece)) :
    writeLines ((p :: q :: line) :: more) =
      p.markers ++ .whitespace :: writeLines ((q :: line) :: more) := by
  simp only [writeLines, List.map_cons, intercalate_cons, List.flatMap_cons, List.append_assoc,
    List.cons_append, List.nil_append]

theorem writeLines_break (p q : Piece) (line : List Piece) (more : List (List Piece)) :
    writeLines ([p] :: (q :: line) :: more) =
      p.markers ++ newLine continuationIndent ++ writeLines ((q :: line) :: more) := by
  simp only [writeLines, List.map_cons, List.map_nil, intercalate_cons, List.flatMap_cons,
    List.flatMap_nil, List.append_nil, List.append_assoc]

/-- The lines that `fillLine` makes, written behind a first piece. -/
theorem writeLines_fillLine (limit : Int) (ps : List Piece) (used : Nat) (p : Piece) :
    writeLines ((p :: (fillLine limit Piece.width used ps).1) ::
        (fillLine limit Piece.width used ps).2) =
      p.markers ++ moreMarks limit used ps := by
  induction ps generalizing used p with
  | nil => rw [fillLine, moreMarks, writeLines_single, List.append_nil]
  | cons q ps ih =>
    rw [fillLine, moreMarks]
    by_cases h : ((used + q.width : Nat) : Int) > limit
    · rw [if_pos h, if_pos h, writeLines_break, ih]
      simp only [List.append_assoc]
    · rw [if_neg h, if_neg h, writeLines_blank, ih]
      rfl

/-- **A sequence is its first piece and what follows it.** -/
theorem writeSequence_cons (limit : Int) (p : Piece) (ps : List Piece) :
    writeSequence limit (p :: ps) = p.markers ++ moreMarks limit p.width ps :=
  writeLines_fillLine limit ps p.width p

theorem writeSequence_nil (limit : Int) : writeSequence limit [] = [] := rfl

theorem writeChoice_eq (brackets : Bool) (alternatives : List (List Marker)) :
    writeChoice brackets alternatives =
      (if brackets then [.symbol "("] else []) ++
        List.intercalate (separator brackets) alternatives ++
        (if brackets then [.symbol ")"] else []) := by
  unfold writeChoice
  cases brackets <;> simp

theorem writeChoice_cons (brackets : Bool) (first : List Marker) (more : List (List Marker)) :
    writeChoice brackets (first :: more) =
      (if brackets then [.symbol "("] else []) ++ first ++
        (more.flatMap fun a => separator brackets ++ a) ++
        (if brackets then [.symbol ")"] else []) := by
  rw [writeChoice_eq, intercalate_cons]
  simp only [List.append_assoc]

/-! ## 2. Which marks there are -/

theorem mem_newLine {mark : Marker} {indent : Nat} (h : mark ∈ newLine indent) :
    mark = .whitespace ∨ mark = .lineBreak := by
  rcases List.mem_cons.mp h with h | h
  · exact .inr h
  · exact .inl (List.eq_of_mem_replicate h)

theorem mem_moreMarks {limit : Int} {ps : List Piece} {used : Nat} {mark : Marker}
    (h : mark ∈ moreMarks limit used ps) :
    mark = .whitespace ∨ mark = .lineBreak ∨ ∃ p ∈ ps, mark ∈ p.markers := by
  induction ps generalizing used with
  | nil => exact absurd h List.not_mem_nil
  | cons p ps ih =>
    rw [moreMarks] at h
    split at h
    · rcases List.mem_append.mp h with h | h
      · rcases List.mem_append.mp h with h | h
        · exact (mem_newLine h).imp id .inl
        · exact .inr (.inr ⟨p, List.mem_cons_self, h⟩)
      · exact (ih h).imp id (.imp id fun ⟨q, hq, hm⟩ => ⟨q, List.mem_cons_of_mem _ hq, hm⟩)
    · rcases List.mem_append.mp h with h | h
      · rcases List.mem_cons.mp h with h | h
        · exact .inl h
        · exact .inr (.inr ⟨p, List.mem_cons_self, h⟩)
      · exact (ih h).imp id (.imp id fun ⟨q, hq, hm⟩ => ⟨q, List.mem_cons_of_mem _ hq, hm⟩)

/-- A mark of a sequence is a blank, a break, or a mark of a piece. -/
theorem mem_writeSequence {limit : Int} {ps : List Piece} {mark : Marker}
    (h : mark ∈ writeSequence limit ps) :
    mark = .whitespace ∨ mark = .lineBreak ∨ ∃ p ∈ ps, mark ∈ p.markers := by
  cases ps with
  | nil => exact absurd h List.not_mem_nil
  | cons p ps =>
    rw [writeSequence_cons] at h
    rcases List.mem_append.mp h with h | h
    · exact .inr (.inr ⟨p, List.mem_cons_self, h⟩)
    · exact (mem_moreMarks h).imp id
        (.imp id fun ⟨q, hq, hm⟩ => ⟨q, List.mem_cons_of_mem _ hq, hm⟩)

theorem mem_moreMarks_of_piece (limit : Int) {ps : List Piece} {p : Piece} (hp : p ∈ ps)
    {mark : Marker} (h : mark ∈ p.markers) (used : Nat) : mark ∈ moreMarks limit used ps := by
  induction ps generalizing used with
  | nil => exact absurd hp List.not_mem_nil
  | cons q ps ih =>
    rw [moreMarks]
    rcases List.mem_cons.mp hp with rfl | hp
    · split <;> simp [h]
    · split <;> simp [ih hp]

theorem mem_writeSequence_of_piece (limit : Int) {ps : List Piece} {p : Piece} (hp : p ∈ ps)
    {mark : Marker} (h : mark ∈ p.markers) : mark ∈ writeSequence limit ps := by
  cases ps with
  | nil => exact absurd hp List.not_mem_nil
  | cons q ps =>
    rw [writeSequence_cons]
    rcases List.mem_cons.mp hp with rfl | hp
    · exact List.mem_append.mpr (.inl h)
    · exact List.mem_append.mpr (.inr (mem_moreMarks_of_piece limit hp h _))

theorem mem_separator {brackets : Bool} {mark : Marker} (h : mark ∈ separator brackets) :
    mark = .whitespace ∨ mark = .lineBreak ∨ mark = .symbol "|" := by
  unfold separator at h
  cases brackets with
  | true =>
    simp only [List.mem_append, List.mem_cons, List.not_mem_nil, or_false, if_true] at h
    rcases h with h | h | h
    · exact .inl h
    · exact .inr (.inr h)
    · exact .inl h
  | false =>
    rcases List.mem_append.mp h with h | h
    · exact (mem_newLine h).imp id .inl
    · simp only [List.mem_cons, List.not_mem_nil, or_false] at h
      exact h.elim (fun h => .inr (.inr h)) .inl

theorem mem_intercalate {α : Type} {sep : List α} {ls : List (List α)} {x : α}
    (h : x ∈ List.intercalate sep ls) : x ∈ sep ∨ ∃ l ∈ ls, x ∈ l := by
  cases ls with
  | nil => exact absurd h List.not_mem_nil
  | cons l ls =>
    rw [intercalate_cons] at h
    rcases List.mem_append.mp h with h | h
    · exact .inr ⟨l, List.mem_cons_self, h⟩
    · obtain ⟨y, hy, h⟩ := List.mem_flatMap.mp h
      rcases List.mem_append.mp h with h | h
      · exact .inl h
      · exact .inr ⟨y, List.mem_cons_of_mem _ hy, h⟩

theorem mem_intercalate_of_mem {α : Type} (sep : List α) {ls : List (List α)} {l : List α}
    (hl : l ∈ ls) {x : α} (h : x ∈ l) : x ∈ List.intercalate sep ls := by
  cases ls with
  | nil => exact absurd hl List.not_mem_nil
  | cons y ls =>
    rw [intercalate_cons, List.mem_append, List.mem_flatMap]
    rcases List.mem_cons.mp hl with rfl | hl
    · exact .inl h
    · exact .inr ⟨l, hl, List.mem_append.mpr (.inr h)⟩

theorem mem_bracket {brackets : Bool} {bracket mark : Marker}
    (h : mark ∈ if brackets then [bracket] else []) : mark = bracket := by
  cases brackets with
  | true => exact List.mem_singleton.mp h
  | false => exact absurd h List.not_mem_nil

/-- A mark of a choice is a mark of an alternative, or one of those that stand around them. -/
theorem mem_writeChoice {brackets : Bool} {alternatives : List (List Marker)} {mark : Marker}
    (h : mark ∈ writeChoice brackets alternatives) :
    mark ∈ [.whitespace, .lineBreak, .symbol "|", .symbol "(", .symbol ")"] ∨
      ∃ a ∈ alternatives, mark ∈ a := by
  rw [writeChoice_eq, List.mem_append, List.mem_append] at h
  rcases h with (hopen | hbody) | hclose
  · rw [mem_bracket hopen]
    simp
  · rcases mem_intercalate hbody with hsep | ha
    · rcases mem_separator hsep with rfl | rfl | rfl <;> simp
    · exact .inr ha
  · rw [mem_bracket hclose]
    simp

theorem mem_writeChoice_of_alternative (brackets : Bool) {alternatives : List (List Marker)}
    {a : List Marker} (ha : a ∈ alternatives) {mark : Marker} (h : mark ∈ a) :
    mark ∈ writeChoice brackets alternatives := by
  rw [writeChoice_eq, List.mem_append, List.mem_append]
  exact .inl (.inr (mem_intercalate_of_mem _ ha h))

theorem markersOf_eq_map (ls : List Layout) : markersOf ls = ls.map markers := by
  induction ls with
  | nil => rfl
  | cons l ls ih => rw [markersOf, ih, List.map_cons]

/-- A layout as a piece of a sequence. -/
def piece (l : Layout) : Piece := ⟨l.length, l.markers⟩

theorem pieces_eq_map (ls : List Layout) : pieces ls = (ls.filter isItem).map piece := by
  induction ls with
  | nil => rfl
  | cons l ls ih =>
    rw [pieces, ih]
    by_cases h : l.isItem = true
    · rw [if_pos h, List.filter_cons_of_pos h]
      rfl
    · rw [if_neg h, List.filter_cons_of_neg h]

end Layout

/-- The marks that a rule body is made of. -/
def Marker.isBody : Marker → Bool
  | .whitespace | .lineBreak | .symbol _ | .string _ | .identifier _ => true
  | _ => false

namespace Layout

mutual

theorem isBody_of_mem : ∀ (l : Layout) {mark : Marker}, mark ∈ l.markers → mark.isBody = true
  | .nothing, _, h => absurd h List.not_mem_nil
  | .symbol _, _, h => by rw [List.mem_singleton.mp h]; rfl
  | .string _, _, h => by rw [List.mem_singleton.mp h]; rfl
  | .identifier _, _, h => by rw [List.mem_singleton.mp h]; rfl
  | .beside parts, _, h => by
      rw [markers] at h
      obtain ⟨a, ha, h⟩ := List.mem_flatten.mp h
      exact isBody_of_mem_all parts ha h
  | .sequence items limit, mark, h => by
      rw [markers] at h
      rcases mem_writeSequence h with rfl | rfl | ⟨p, hp, h⟩
      · rfl
      · rfl
      · rw [pieces_eq_map] at hp
        obtain ⟨l, hl, rfl⟩ := List.mem_map.mp hp
        refine isBody_of_mem_all items (a := l.markers) ?_ h
        rw [markersOf_eq_map]
        exact List.mem_map_of_mem (List.mem_filter.mp hl).1
  | .choice alternatives brackets, mark, h => by
      rw [markers] at h
      rcases mem_writeChoice h with h | ⟨a, ha, h⟩
      · simp only [List.mem_cons, List.not_mem_nil, or_false] at h
        rcases h with rfl | rfl | rfl | rfl | rfl <;> rfl
      · exact isBody_of_mem_all alternatives ha h

theorem isBody_of_mem_all : ∀ (ls : List Layout) {a : List Marker} {mark : Marker},
    a ∈ markersOf ls → mark ∈ a → mark.isBody = true
  | [], _, _, ha, _ => absurd ha List.not_mem_nil
  | l :: ls, _, _, ha, h => by
      rw [markersOf] at ha
      rcases List.mem_cons.mp ha with rfl | ha
      · exact isBody_of_mem l h
      · exact isBody_of_mem_all ls ha h

end

end Layout

end GrammarManual
