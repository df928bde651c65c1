import GrammarManual.Proofs.Lines
import GrammarManual.Proofs.Walk

/-!
# Proofs/Places: which part of a body a mark belongs to

* `Expr.marks` -- the marks of an expression;
* `Expr.Child`, `Expr.Occurs` -- an expression stands inside another one, with given marks before
  and behind it; `Occurs.marks_eq` says that these are all marks of the outer one;
* `sequence_place`, `group_place` -- a mark of a sequence or of a group stands between its parts or
  belongs to one of them.
-/

namespace GrammarManual

/-! ## 1. Places in lists -/

theorem eq_append_cons_of_append {α : Type} {xs ys pre post : List α} {m : α}
    (h : xs ++ ys = pre ++ m :: post) :
    (∃ more, xs = pre ++ m :: more ∧ post = more ++ ys) ∨
      ∃ front, pre = xs ++ front ∧ ys = front ++ m :: post := by
  rcases List.append_eq_append_iff.mp h with ⟨front, rfl, hy⟩ | ⟨more, hx, hy⟩
  · exact .inr ⟨front, rfl, hy⟩
  · cases more with
    | nil => exact .inr ⟨[], by simpa using hx.symm, by simpa using hy.symm⟩
    | cons x more =>
      cases hy
      exact .inl ⟨more, hx, rfl⟩

theorem intercalate_append_cons {α : Type} (sep : List α) (xs : List (List α)) (l : List α)
    (ys : List (List α)) :
    List.intercalate sep (xs ++ l :: ys) =
      (xs.flatMap fun x => x ++ sep) ++ l ++ ys.flatMap fun y => sep ++ y := by
  induction xs with
  | nil => exact Layout.intercalate_cons sep l ys
  | cons x xs ih =>
    have hcons : List.intercalate sep (x :: (xs ++ l :: ys)) =
        x ++ sep ++ List.intercalate sep (xs ++ l :: ys) :=
      List.intercalate_cons_of_ne_nil (by simp)
    rw [List.cons_append, hcons, ih, List.flatMap_cons]
    simp only [List.append_assoc]

/-- A mark of joined lists stands in the joint or in one of the lists. -/
theorem intercalate_place {α : Type} {sep : List α} {ls : List (List α)} {pre post : List α} {m : α}
    (h : List.intercalate sep ls = pre ++ m :: post) :
    m ∈ sep ∨ ∃ xs l ys front more, ls = xs ++ l :: ys ∧ l = front ++ m :: more ∧
      pre = (xs.flatMap fun x => x ++ sep) ++ front ∧
      post = more ++ ys.flatMap fun y => sep ++ y := by
  induction ls generalizing pre with
  | nil =>
    rw [List.intercalate_nil] at h
    exact absurd h (by simp)
  | cons l ls ih =>
    cases ls with
    | nil =>
      rw [List.intercalate_singleton] at h
      exact .inr ⟨[], l, [], pre, post, rfl, h, rfl, (List.append_nil _).symm⟩
    | cons l' ls =>
      rw [List.intercalate_cons_cons, List.append_assoc] at h
      rcases eq_append_cons_of_append h with ⟨more, hl, rfl⟩ | ⟨front, rfl, h'⟩
      · refine .inr ⟨[], l, l' :: ls, pre, more, rfl, hl, rfl, ?_⟩
        rw [Layout.intercalate_cons, List.flatMap_cons, List.append_assoc]
      · rcases eq_append_cons_of_append h' with ⟨more, hsep, -⟩ | ⟨front', rfl, hrest⟩
        · exact .inl (by simp [hsep])
        · refine (ih hrest).imp id ?_
          rintro ⟨xs, x, ys, a, b, hls, hx, rfl, rfl⟩
          refine ⟨l :: xs, x, ys, a, b, by rw [hls]; rfl, hx, ?_, rfl⟩
          rw [List.flatMap_cons]
          simp only [List.append_assoc]

namespace Layout

/-- A mark stands in one of some pieces that are written in a row. What is written before that piece
    does not depend on the pieces behind it. -/
def InPiece (write : List Piece → List Marker) (ps : List Piece) (pre : List Marker) (m : Marker)
    (post : List Marker) : Prop :=
  ∃ qs q rs before after front more,
    ps = qs ++ q :: rs ∧ q.markers = front ++ m :: more ∧
      write (qs ++ [q]) = before ++ q.markers ∧ write ps = before ++ q.markers ++ after ∧
      pre = before ++ front ∧ post = more ++ after

/-- One piece more, behind a gap: a mark stands in the gap, in the piece, or in a later one. -/
theorem place_cons {write more : List Piece → List Marker} {gap : List Marker} {p : Piece}
    {ps : List Piece} {pre post : List Marker} {m : Marker}
    (hwrite : ∀ rest, write (p :: rest) = gap ++ p.markers ++ more rest) (hnil : more [] = [])
    (hgap : ∀ x ∈ gap, x = Marker.whitespace ∨ x = .lineBreak)
    (hmore : ∀ pre, more ps = pre ++ m :: post →
      (m = .whitespace ∨ m = .lineBreak) ∨ InPiece more ps pre m post)
    (h : write (p :: ps) = pre ++ m :: post) :
    (m = .whitespace ∨ m = .lineBreak) ∨ InPiece write (p :: ps) pre m post := by
  rw [hwrite, List.append_assoc] at h
  rcases eq_append_cons_of_append h with ⟨rest, hg, -⟩ | ⟨front, rfl, h'⟩
  · exact .inl (hgap m (by simp [hg]))
  · rcases eq_append_cons_of_append h' with ⟨rest, hp, rfl⟩ | ⟨front', rfl, hrest⟩
    · refine .inr ⟨[], p, ps, gap, more ps, front, rest, rfl, hp, ?_, hwrite ps, rfl, rfl⟩
      rw [List.nil_append, hwrite, hnil, List.append_nil]
    · refine (hmore front' hrest).imp id ?_
      rintro ⟨qs, q, rs, before, after, a, b, rfl, hq, hone, hall, rfl, rfl⟩
      refine ⟨p :: qs, q, rs, gap ++ p.markers ++ before, after, a, b, rfl, hq, ?_, ?_, ?_, rfl⟩
      · rw [List.cons_append, hwrite, hone]
        simp only [List.append_assoc]
      · rw [hwrite, hall]
        simp only [List.append_assoc]
      · simp only [List.append_assoc]

/-- A mark behind the first piece of a sequence stands in a gap or in one of the pieces. -/
theorem moreMarks_place {limit : Int} {ps : List Piece} {used : Nat} {pre post : List Marker}
    {m : Marker} (h : moreMarks limit used ps = pre ++ m :: post) :
    (m = .whitespace ∨ m = .lineBreak) ∨ InPiece (moreMarks limit used) ps pre m post := by
  induction ps generalizing used pre with
  | nil => exact absurd h (by simp [moreMarks])
  | cons p ps ih =>
    by_cases hw : ((used + p.width : Nat) : Int) > limit
    · have hwrite : ∀ rest, moreMarks limit used (p :: rest) =
          newLine continuationIndent ++ p.markers ++ moreMarks limit p.width rest := by
        intro rest
        rw [moreMarks, if_pos hw]
      exact place_cons hwrite rfl (fun x hx => mem_newLine hx) (fun _ hrest => ih hrest) h
    · have hwrite : ∀ rest, moreMarks limit used (p :: rest) =
          [.whitespace] ++ p.markers ++ moreMarks limit (used + p.width) rest := by
        intro rest
        rw [moreMarks, if_neg hw]
        rfl
      exact place_cons hwrite rfl (fun x hx => .inl (List.mem_singleton.mp hx))
        (fun _ hrest => ih hrest) h

/-- A mark of a sequence stands in a gap or in one of the pieces. -/
theorem writeSequence_place {limit : Int} {ps : List Piece} {pre post : List Marker} {m : Marker}
    (h : writeSequence limit ps = pre ++ m :: post) :
    (m = .whitespace ∨ m = .lineBreak) ∨ InPiece (writeSequence limit) ps pre m post := by
  cases ps with
  | nil =>
    rw [writeSequence_nil] at h
    exact absurd h (by simp)
  | cons p ps =>
    have hwrite : ∀ rest, writeSequence limit (p :: rest) =
        [] ++ p.markers ++ moreMarks limit p.width rest := writeSequence_cons limit p
    exact place_cons hwrite rfl (fun x hx => absurd hx List.not_mem_nil)
      (fun _ hrest => moreMarks_place hrest) h

end Layout

/-! ## 2. Parts of expressions -/

namespace Expr

section Places

variable (v : View) (mode : Mode)

/-- The marks of an expression that stands `depth` groups deep. -/
def marks (depth : Nat) (e : Expr) : List Marker := (e.layout v mode depth).markers

/-- What a group with the alternatives `es` writes before one of them, where `xs` come first. -/
def groupBefore (depth : Nat) (es xs : List Expr) : List Marker :=
  (if needsBrackets depth es then [.symbol "("] else []) ++
    xs.flatMap fun x => x.marks v mode (depth + 1) ++ Layout.separator (needsBrackets depth es)

/-- What a group with the alternatives `es` writes behind one of them, where `ys` come last. -/
def groupAfter (depth : Nat) (es ys : List Expr) : List Marker :=
  (ys.flatMap fun y => Layout.separator (needsBrackets depth es) ++ y.marks v mode (depth + 1)) ++
    if needsBrackets depth es then [.symbol ")"] else []

/-- An expression, its depth, and a part directly below it: the marks that the expression writes
    before the part, the depth of the part, the part, and the marks behind it. -/
inductive Child : Nat → Expr → List Marker → Nat → Expr → List Marker → Prop where
  /-- What is written before an item does not depend on the items behind it. -/
  | item {depth : Nat} {xs ys : List Expr} {x : Expr} {before after : List Marker}
      (hbefore : (Expr.sequence (xs ++ [x])).marks v mode depth = before ++ x.marks v mode depth)
      (hafter : (Expr.sequence (xs ++ x :: ys)).marks v mode depth =
        before ++ x.marks v mode depth ++ after) :
      Child depth (.sequence (xs ++ x :: ys)) before depth x after
  | alternative (depth : Nat) (xs : List Expr) (x : Expr) (ys : List Expr) :
      Child depth (.choice (xs ++ x :: ys)) (groupBefore v mode depth (xs ++ x :: ys) xs)
        (depth + 1) x (groupAfter v mode depth (xs ++ x :: ys) ys)
  | member (depth : Nat) (xs : List Expr) (x : Expr) (ys : List Expr) :
      Child depth (.tokenSet (xs ++ x :: ys)) (groupBefore v mode depth (xs ++ x :: ys) xs)
        (depth + 1) x (groupAfter v mode depth (xs ++ x :: ys) ys)
  | repeated (depth : Nat) (operand : Expr) (times : Repetition) (greedy : Bool) :
      Child depth (.repeated operand times greedy) [] depth operand
        (.symbol times.sign :: (Layout.lazyMark greedy).markers)
  | negated (depth : Nat) (operand : Expr) :
      Child depth (.negated operand) [.symbol "~"] depth operand []
  | first (depth : Nat) (first last : Expr) :
      Child depth (.range first last) [] depth first (.string ".." :: last.marks v mode depth)
  | last (depth : Nat) (first last : Expr) :
      Child depth (.range first last) (first.marks v mode depth ++ [.string ".."]) depth last []

/-- An expression, its depth, and a part anywhere in it: as in `Child`. -/
inductive Occurs : Nat → Expr → List Marker → Nat → Expr → List Marker → Prop where
  | here (depth : Nat) (e : Expr) : Occurs depth e [] depth e []
  | inside {depth depth' depth'' : Nat} {e y x : Expr} {before after before' after' : List Marker}
      (hc : Child v mode depth e before depth' y after)
      (ho : Occurs depth' y before' depth'' x after') :
      Occurs depth e (before ++ before') depth'' x (after' ++ after)

end Places

variable {v : View} {mode : Mode}

/-- What an expression leaves in the sequence it is an item of. -/
def piece? (v : View) (mode : Mode) (depth : Nat) (e : Expr) : Option Layout.Piece :=
  if (e.layout v mode depth).isItem then some (e.layout v mode depth).piece else none

theorem marks_sequence (depth : Nat) (items : List Expr) :
    (Expr.sequence items).marks v mode depth =
      Layout.writeSequence v.limit (items.filterMap (piece? v mode depth)) := by
  rw [marks, layout, Layout.markers, Layout.pieces_eq_map, layoutAll_eq_map, List.filter_map,
    List.map_map, ← List.filterMap_eq_map, List.filterMap_filter]
  rfl

theorem marks_choice (depth : Nat) (es : List Expr) :
    (Expr.choice es).marks v mode depth =
      Layout.writeChoice (needsBrackets depth es) (es.map (marks v mode (depth + 1))) := by
  rw [marks, layout, Layout.markers, Layout.markersOf_eq_map, layoutAll_eq_map, List.map_map]
  rfl

theorem marks_tokenSet (depth : Nat) (es : List Expr) :
    (Expr.tokenSet es).marks v mode depth = (Expr.choice es).marks v mode depth := rfl

theorem marks_repeated (depth : Nat) (operand : Expr) (times : Repetition) (greedy : Bool) :
    (Expr.repeated operand times greedy).marks v mode depth =
      operand.marks v mode depth ++
        .symbol times.sign :: (Layout.lazyMark greedy).markers := by
  simp [marks, layout, Layout.repeated, Layout.markers, Layout.markersOf]

theorem marks_negated (depth : Nat) (operand : Expr) :
    (Expr.negated operand).marks v mode depth = .symbol "~" :: operand.marks v mode depth := by
  simp [marks, layout, Layout.negated, Layout.markers, Layout.markersOf]

theorem marks_range (depth : Nat) (first last : Expr) :
    (Expr.range first last).marks v mode depth =
      first.marks v mode depth ++ .string ".." :: last.marks v mode depth := by
  simp [marks, layout, Layout.range, Layout.markers, Layout.markersOf]

/-- The marks of a group around one of its alternatives. -/
theorem marks_group (depth : Nat) (xs : List Expr) (x : Expr) (ys : List Expr) :
    (Expr.choice (xs ++ x :: ys)).marks v mode depth =
      groupBefore v mode depth (xs ++ x :: ys) xs ++ x.marks v mode (depth + 1) ++
        groupAfter v mode depth (xs ++ x :: ys) ys := by
  rw [marks_choice, groupBefore, groupAfter, List.map_append, List.map_cons]
  unfold Layout.writeChoice
  rw [intercalate_append_cons, List.flatMap_map, List.flatMap_map]
  cases needsBrackets depth (xs ++ x :: ys) <;> simp

/-- **The marks around a part are marks of the whole.** -/
theorem Child.marks_eq {depth depth' : Nat} {e x : Expr} {before after : List Marker}
    (h : Child v mode depth e before depth' x after) :
    e.marks v mode depth = before ++ x.marks v mode depth' ++ after := by
  cases h with
  | item _ hafter => exact hafter
  | alternative | member => exact marks_group _ _ _ _
  | repeated => rw [marks_repeated, List.nil_append]
  | negated => rw [marks_negated, List.append_nil]; rfl
  | first => rw [marks_range, List.nil_append]
  | last => rw [marks_range, List.append_nil, List.append_assoc]; rfl

theorem Occurs.marks_eq {depth depth' : Nat} {e x : Expr} {before after : List Marker}
    (h : Occurs v mode depth e before depth' x after) :
    e.marks v mode depth = before ++ x.marks v mode depth' ++ after := by
  induction h with
  | here => rw [List.nil_append, List.append_nil]
  | inside hc _ ih => rw [hc.marks_eq, ih]; simp only [List.append_assoc]

/-! ## 3. Where a mark stands -/

/-- A mark of a sequence stands in a gap or in one of the items. -/
theorem sequence_place {depth : Nat} {items : List Expr} {pre post : List Marker} {m : Marker}
    (h : (Expr.sequence items).marks v mode depth = pre ++ m :: post) :
    (m = .whitespace ∨ m = .lineBreak) ∨ ∃ x ∈ items, ∃ before after front more,
      Child v mode depth (.sequence items) before depth x after ∧
        x.marks v mode depth = front ++ m :: more ∧
        pre = before ++ front ∧ post = more ++ after := by
  rw [marks_sequence] at h
  refine (Layout.writeSequence_place h).imp id ?_
  rintro ⟨qs, q, rs, before, after, front, more, hps, hq, hone, hall, rfl, rfl⟩
  obtain ⟨xs, rest, rfl, hxs, hrest⟩ := List.filterMap_eq_append_iff.mp hps
  obtain ⟨silent, x, ys, rfl, hsilent, hx, -⟩ := List.filterMap_eq_cons_iff.mp hrest
  have hmarks : q.markers = x.marks v mode depth := by
    unfold piece? at hx
    split at hx
    · cases hx
      rfl
    · cases hx
  have hqs : (xs ++ silent ++ [x]).filterMap (piece? v mode depth) = qs ++ [q] := by
    rw [List.filterMap_append, List.filterMap_append, hxs,
      List.filterMap_eq_nil_iff.mpr hsilent, List.append_nil,
      List.filterMap_cons_some hx, List.filterMap_nil]
  rw [hmarks] at hq hone hall
  rw [← List.append_assoc] at hall ⊢
  refine ⟨x, by simp, before, after, front, more, .item ?_ ?_, hq, rfl, rfl⟩
  · rw [marks_sequence, hqs, hone]
  · rw [marks_sequence, hall]

/-- A mark of a group stands around its alternatives or in one of them. -/
theorem group_place {depth : Nat} {es : List Expr} {pre post : List Marker} {m : Marker}
    (h : (Expr.choice es).marks v mode depth = pre ++ m :: post) :
    m ∈ [.whitespace, .lineBreak, .symbol "|", .symbol "(", .symbol ")"] ∨
      ∃ xs x ys front more, es = xs ++ x :: ys ∧
        x.marks v mode (depth + 1) = front ++ m :: more ∧
        pre = groupBefore v mode depth es xs ++ front ∧
        post = more ++ groupAfter v mode depth es ys := by
  rw [marks_choice, Layout.writeChoice_eq, List.append_assoc] at h
  rcases eq_append_cons_of_append h with ⟨more, hopen, -⟩ | ⟨front, rfl, h'⟩
  · have hm : m = .symbol "(" := Layout.mem_bracket (by rw [hopen]; simp)
    rw [hm]
    exact .inl (by simp)
  · rcases eq_append_cons_of_append h' with ⟨more, hbody, rfl⟩ | ⟨front', -, hclose⟩
    · rcases intercalate_place hbody with hsep | ⟨xs, l, ys, a, b, hes, hl, rfl, rfl⟩
      · refine .inl ?_
        rcases Layout.mem_separator hsep with rfl | rfl | rfl <;> simp
      · obtain ⟨xs, rest, rfl, rfl, hrest⟩ := List.map_eq_append_iff.mp hes
        obtain ⟨x, ys, rfl, rfl, rfl⟩ := List.map_eq_cons_iff.mp hrest
        refine .inr ⟨xs, x, ys, a, b, rfl, hl, ?_, ?_⟩
        · rw [groupBefore, List.flatMap_map, List.append_assoc]
        · rw [groupAfter, List.flatMap_map, List.append_assoc]
    · have hm : m = .symbol ")" := Layout.mem_bracket (by rw [hclose]; simp)
      rw [hm]
      exact .inl (by simp)

end Expr

end GrammarManual
