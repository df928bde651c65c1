import GrammarManual.Proofs.Lines
import GrammarManual.Proofs.Walk
import GrammarManual.Proofs.Written

/-!
# Proofs/Form: what a rule body says, without what is not shown

* `Form` -- expressions in normal form: no actions or predicates, and no groups that are not shown;
* `Expr.form`, `Expr.bodyForm` -- the normal form of an expression, of a body;
* `Form.layout` -- the layout of a normal form;
* **`Expr.Written.piece_layout`** -- a written expression is laid out like its normal form: as many
  characters, the same marks.
-/

namespace GrammarManual

/-! ## 1. Normal forms -/

/-- An expression in normal form. -/
inductive Form where
  /-- A group with nothing to show. -/
  | nothing
  | reference (name : String)
  | literal (text : String)
  | charset (text : String)
  | wildcard
  /-- A group in brackets; its alternatives are sequences. -/
  | group (alternatives : List Form)
  | sequence (items : List Form)
  | repeated (operand : Form) (times : Repetition) (greedy : Bool)
  | negated (operand : Form)
  | range (first last : Form)
  deriving Repr, Inhabited

namespace Form

/-- A sequence of one item with nothing to show is the empty sequence. -/
def trim : List Form → List Form
  | [.nothing] => []
  | items => items

/-- A form as an alternative of a group. -/
def alternative : Form → Form
  | .sequence items => .sequence items
  | f => .sequence [f]

/-- What a group without brackets comes down to: its only item, if it has one. -/
def bare : List Form → Form
  | [.sequence [item]] => item
  | _ => .nothing

theorem bare_trim (f : Form) : bare [.sequence (trim [f])] = f := by
  cases f <;> rfl

end Form

namespace Expr

/-- Whether an expression is left out where it is shown. -/
def isSilent : Expr → Bool
  | .predicate _ | .action _ | .foreign => true
  | _ => false

/-- The elements of an alternative; a member of a set is an alternative of its own. -/
def elements : Expr → List Expr
  | .sequence items => items
  | e => [e]

/-- Whether a group inside a body keeps its brackets: if it has several alternatives, or one with
    several elements, or one whose only element has an operator. -/
def keepsBrackets : List Expr → Bool
  | [only] =>
    match only.elements with
    | [e] => e.isOperator
    | es => decide (1 < es.length)
  | alternatives => decide (1 < alternatives.length)

theorem needsBrackets_eq (depth : Nat) (alternatives : List Expr) :
    needsBrackets (depth + 1) alternatives = keepsBrackets alternatives := by
  unfold needsBrackets keepsBrackets
  rw [if_neg (Nat.succ_ne_zero depth)]
  match alternatives with
  | [] => rfl
  | [only] =>
    cases only with
    | sequence items =>
      match items with
      | [] => rfl
      | [_] => rfl
      | _ :: _ :: _ => simp [elements]
    | _ => rfl
  | _ :: _ :: _ => simp

variable (index : LiteralIndex) (mode : Mode)

mutual

/-- The normal form of an expression inside a body. -/
def form : Expr → Form
  | .sequence items => .sequence (Form.trim (formItems items))
  | .choice alternatives =>
    if keepsBrackets alternatives then .group ((formAll alternatives).map Form.alternative)
    else .bare ((formAll alternatives).map Form.alternative)
  | .tokenSet members =>
    if keepsBrackets members then .group ((formAll members).map Form.alternative)
    else .bare ((formAll members).map Form.alternative)
  | .repeated operand times greedy => .repeated (form operand) times greedy
  | .negated operand => .negated (form operand)
  | .range first last => .range (form first) (form last)
  | .reference name => .reference name
  | .literal text =>
    match index.shown? mode text with
    | some token => .reference token
    | none => .literal text
  | .charset text => .charset text
  | .wildcard => .wildcard
  | .predicate _ | .action _ | .foreign => .nothing

def formAll : List Expr → List Form
  | [] => []
  | e :: es => form e :: formAll es

/-- The items of a sequence that are shown. -/
def formItems : List Expr → List Form
  | [] => []
  | e :: es => if e.isSilent then formItems es else form e :: formItems es

end

/-- The normal form of a rule body. -/
def bodyForm : Expr → Form
  | .choice alternatives => .group ((formAll index mode alternatives).map Form.alternative)
  | e => form index mode e

theorem formAll_eq_map (es : List Expr) : formAll index mode es = es.map (form index mode) := by
  induction es with
  | nil => rfl
  | cons e es ih => rw [formAll, ih, List.map_cons]

theorem formItems_eq (es : List Expr) :
    formItems index mode es = (es.filter fun e => !e.isSilent).map (form index mode) := by
  induction es with
  | nil => rfl
  | cons e es ih =>
    rw [formItems, ih]
    cases h : e.isSilent with
    | true => rw [if_pos rfl, List.filter_cons_of_neg (by simp [h])]
    | false => rw [if_neg (by simp), List.filter_cons_of_pos (by simp [h]), List.map_cons]

end Expr

namespace Form

mutual

/-- The layout of a normal form inside a body. -/
def layout (limit : Int) : Form → Layout
  | .nothing => .beside []
  | .reference name => .identifier name
  | .literal text => .string text
  | .charset text => .charset text
  | .wildcard => .wildcard
  | .group alternatives => .choice (layoutAll limit alternatives) true
  | .sequence items => .sequence (layoutAll limit items) limit
  | .repeated operand times greedy => (layout limit operand).repeated times greedy
  | .negated operand => (layout limit operand).negated
  | .range first last => Layout.range (layout limit first) (layout limit last)

def layoutAll (limit : Int) : List Form → List Layout
  | [] => []
  | f :: fs => layout limit f :: layoutAll limit fs

end

/-- The layout of the normal form of a body. -/
def bodyLayout (limit : Int) : Form → Layout
  | .group alternatives => .choice (layoutAll limit alternatives) false
  | f => f.layout limit

theorem layoutAll_eq_map (limit : Int) (fs : List Form) :
    layoutAll limit fs = fs.map (layout limit) := by
  induction fs with
  | nil => rfl
  | cons f fs ih => rw [layoutAll, ih, List.map_cons]

theorem isItem_layout (limit : Int) (f : Form) : (f.layout limit).isItem = true := by
  cases f <;> rfl

end Form

/-! ## 2. Pieces -/

namespace Layout

theorem totalLength_eq_foldr (ls : List Layout) :
    totalLength ls = (ls.map piece).foldr (fun p n => p.width + n) 0 := by
  induction ls with
  | nil => rfl
  | cons l ls ih =>
    rw [totalLength, ih]
    rfl

theorem markersOf_eq_map_piece (ls : List Layout) :
    markersOf ls = (ls.map piece).map Piece.markers := by
  rw [markersOf_eq_map, List.map_map]
  rfl

theorem piece_beside {ls ls' : List Layout} (h : ls.map piece = ls'.map piece) :
    piece (.beside ls) = piece (.beside ls') := by
  simp only [piece, length, markers, totalLength_eq_foldr, markersOf_eq_map_piece, h]

theorem piece_choice {ls ls' : List Layout} (h : ls.map piece = ls'.map piece) (brackets : Bool) :
    piece (.choice ls brackets) = piece (.choice ls' brackets) := by
  have hl : ls.length = ls'.length := by simpa using congrArg List.length h
  simp only [piece, length, markers, totalLength_eq_foldr, markersOf_eq_map_piece, h, hl]

/-- What is no item takes no room. -/
theorem totalLength_filter (ls : List Layout) :
    totalLength ls = totalLength (ls.filter isItem) := by
  induction ls with
  | nil => rfl
  | cons l ls ih =>
    by_cases h : l.isItem = true
    · rw [List.filter_cons_of_pos h, totalLength, totalLength, ih]
    · rw [List.filter_cons_of_neg h, ← ih, totalLength]
      cases l with
      | nothing => exact Nat.zero_add _
      | _ => exact absurd rfl h

theorem piece_sequence {ls ls' : List Layout} (limit : Int)
    (h : (ls.filter isItem).map piece = (ls'.filter isItem).map piece) :
    piece (.sequence ls limit) = piece (.sequence ls' limit) := by
  have hl : (ls.filter isItem).length = (ls'.filter isItem).length := by
    simpa using congrArg List.length h
  have htotal : totalLength ls = totalLength ls' := by
    rw [totalLength_filter ls, totalLength_filter ls', totalLength_eq_foldr,
      totalLength_eq_foldr, h]
  simp only [piece, length, markers, pieces_eq_map, htotal, h, hl]

theorem piece_single (l : Layout) (limit : Int) : piece (.sequence [l] limit) = piece l := by
  by_cases h : l.isItem = true
  · simp [piece, length, markers, totalLength, pieces, h, writeSequence_cons, moreMarks]
  · cases l with
    | nothing => rfl
    | _ => exact absurd rfl h

theorem piece_bare (l : Layout) : piece (.choice [l] false) = piece l := by
  simp [piece, length, markers, totalLength, markersOf, writeChoice_cons]

end Layout

/-! ## 3. Written expressions and their normal forms -/

namespace Expr

theorem isItem_layout (v : View) (mode : Mode) (depth : Nat) (e : Expr) :
    (e.layout v mode depth).isItem = !e.isSilent := by
  cases e with
  | literal text =>
    rw [layout, View.literal_eq]
    cases v.literals.shown? mode text <;> rfl
  | _ => rfl

end Expr

namespace Form

theorem piece_alternative (limit : Int) (f : Form) :
    (f.alternative.layout limit).piece = (f.layout limit).piece := by
  cases f with
  | sequence items => rfl
  | _ => exact Layout.piece_single _ limit

theorem piece_trim (limit : Int) (items : List Form) :
    ((Form.sequence (trim items)).layout limit).piece =
      ((Form.sequence items).layout limit).piece := by
  unfold trim
  split <;> rfl

theorem piece_bare (limit : Int) {items : List Form} (h : items.length ≤ 1) :
    ((bare [.sequence items]).layout limit).piece =
      ((Form.sequence items).layout limit).piece := by
  match items, h with
  | [], _ => rfl
  | [f], _ => exact (Layout.piece_single _ limit).symm

theorem length_trim_le (items : List Form) : (trim items).length ≤ items.length := by
  unfold trim
  split
  · exact Nat.zero_le _
  · exact Nat.le_refl _

end Form

section Written

variable (v : View) (mode : Mode)

/-- The normal form of a member is an alternative of one item. -/
theorem Expr.Written.alternative_form {e : Expr} (h : Expr.Written .member e)
    (index : LiteralIndex) : (e.form index mode).alternative = .sequence [e.form index mode] := by
  cases h with
  | @literal text h =>
    rw [Expr.form]
    cases index.shown? mode text <;> rfl
  | _ => rfl

/-- What can stand as an alternative of a group or a set. -/
def Expr.IsAlternative (e : Expr) : Prop :=
  (∃ items, e = .sequence items) ∨ Expr.Written .member e

/-- A group without brackets has one alternative. -/
theorem Expr.eq_single_of_unbracketed {es : List Expr} (hne : es ≠ [])
    (h : Expr.keepsBrackets es = false) : ∃ only, es = [only] := by
  match es with
  | [] => exact absurd rfl hne
  | [only] => exact ⟨only, rfl⟩
  | _ :: _ :: _ => simp [keepsBrackets] at h

/-- An alternative without brackets has one item at most, and that has no operator. -/
theorem Expr.items_of_unbracketed {items : List Expr}
    (h : Expr.keepsBrackets [.sequence items] = false) :
    items = [] ∨ ∃ x, items = [x] ∧ x.isOperator = false := by
  cases items with
  | nil => exact .inl rfl
  | cons x more =>
    cases more with
    | nil => exact .inr ⟨x, rfl, h⟩
    | cons => simp [keepsBrackets, elements] at h

/-- The normal form of a single alternative without brackets has one item at most. -/
theorem Expr.alternative_of_unbracketed {only : Expr} (ha : only.IsAlternative)
    (h : Expr.keepsBrackets [only] = false) (index : LiteralIndex) :
    ∃ items, (only.form index mode).alternative = .sequence items ∧ items.length ≤ 1 := by
  rcases ha with ⟨es, rfl⟩ | hm
  · have hle : es.length ≤ 1 := by
      rcases items_of_unbracketed h with rfl | ⟨x, rfl, -⟩
      · exact Nat.zero_le _
      · exact Nat.le_refl _
    refine ⟨_, rfl, Nat.le_trans (Form.length_trim_le _) ?_⟩
    rw [formItems_eq, List.length_map]
    exact Nat.le_trans (List.length_filter_le _ _) hle
  · exact ⟨_, hm.alternative_form mode index, Nat.le_refl _⟩

/-- A group is laid out like its normal form if its alternatives are. -/
theorem Expr.piece_group {es : List Expr} (hne : es ≠ []) (ha : ∀ e ∈ es, e.IsAlternative)
    {depth : Nat} (h : ∀ e ∈ es, (e.layout v mode (depth + 2)).piece =
      ((e.form v.literals mode).layout v.limit).piece) :
    (Layout.choice (layoutAll v mode (depth + 2) es) (needsBrackets (depth + 1) es)).piece =
      ((if keepsBrackets es then Form.group ((formAll v.literals mode es).map Form.alternative)
        else Form.bare ((formAll v.literals mode es).map Form.alternative)).layout
          v.limit).piece := by
  rw [needsBrackets_eq, layoutAll_eq_map, formAll_eq_map, List.map_map]
  cases hk : keepsBrackets es with
  | true =>
    rw [if_pos rfl, Form.layout, Form.layoutAll_eq_map, List.map_map]
    refine Layout.piece_choice ?_ true
    rw [List.map_map, List.map_map]
    exact List.map_congr_left fun e he => (h e he).trans (Form.piece_alternative _ _).symm
  | false =>
    obtain ⟨only, rfl⟩ := eq_single_of_unbracketed hne hk
    obtain ⟨items, hitems, hle⟩ :=
      alternative_of_unbracketed mode (ha only List.mem_cons_self) hk v.literals
    rw [if_neg (by simp), List.map_singleton, List.map_singleton, Function.comp_apply, hitems,
      Layout.piece_bare, Form.piece_bare _ hle, ← hitems, Form.piece_alternative]
    exact h only List.mem_cons_self

theorem Expr.piece_literal (text : String) (depth : Nat) :
    ((Expr.literal text).layout v mode depth).piece =
      (((Expr.literal text).form v.literals mode).layout v.limit).piece := by
  rw [Expr.layout, View.literal_eq, Expr.form]
  cases v.literals.shown? mode text <;> rfl

/-- **A written expression is laid out like its normal form.** -/
theorem Expr.Written.piece_layout {part : Part} {e : Expr} (h : Expr.Written part e)
    (depth : Nat) : (e.layout v mode (depth + 1)).piece =
      ((e.form v.literals mode).layout v.limit).piece := by
  induction h generalizing depth with
  | block hne h ih =>
    refine Expr.piece_group v mode hne (fun a ha => ?_) fun a ha => ih a ha _
    cases h a ha with
    | alternative => exact .inl ⟨_, rfl⟩
  | @alternative items _ ih =>
    rw [Expr.layout, Expr.form, Form.piece_trim, Form.layout, Expr.formItems_eq,
      Expr.layoutAll_eq_map, Form.layoutAll_eq_map]
    refine Layout.piece_sequence v.limit ?_
    have hitem : Layout.isItem ∘ Expr.layout v mode (depth + 1) = fun e => !e.isSilent :=
      funext fun e => e.isItem_layout v mode (depth + 1)
    have hall : Layout.isItem ∘ Form.layout v.limit = fun _ => true :=
      funext fun f => f.isItem_layout v.limit
    rw [List.filter_map, hitem, List.filter_map, hall, List.filter_eq_self.mpr fun _ _ => rfl,
      List.map_map, List.map_map, List.map_map]
    exact List.map_congr_left fun e he => ih e (List.mem_filter.mp he).1 depth
  | predicate => rfl
  | action => rfl
  | plain _ ih => exact ih depth
  | repeated times greedy _ ih => exact Layout.piece_beside (by simp [ih depth])
  | group _ ih => exact ih depth
  | wildcard => rfl
  | single _ ih => exact ih depth
  | negated _ ih => exact Layout.piece_beside (by simp [ih depth])
  | negatedSet hne h ih =>
    refine Layout.piece_beside (congrArg (_ :: ·) (congrArg (· :: _) ?_))
    exact Expr.piece_group v mode hne (fun a ha => .inr (h a ha)) fun a ha => ih a ha _
  | reference => rfl
  | literal => exact Expr.piece_literal v mode _ _
  | charset => rfl
  | range =>
    refine Layout.piece_beside ?_
    rw [List.map_cons, List.map_cons, List.map_singleton, Expr.piece_literal, Expr.piece_literal]
    rfl

/-- The marks of a body are those of its normal form. -/
theorem Expr.Written.body_markers {e : Expr} (h : Expr.Written .block e) :
    (e.layout v mode 0).markers = ((e.bodyForm v.literals mode).bodyLayout v.limit).markers := by
  cases h with
  | @block alternatives hne h =>
    have hpiece : (Layout.choice (layoutAll v mode 1 alternatives) false).piece =
        (Layout.choice (Form.layoutAll v.limit
          ((formAll v.literals mode alternatives).map Form.alternative)) false).piece := by
      refine Layout.piece_choice ?_ false
      rw [layoutAll_eq_map, formAll_eq_map, Form.layoutAll_eq_map, List.map_map, List.map_map,
        List.map_map, List.map_map]
      exact List.map_congr_left fun a ha =>
        ((h a ha).piece_layout v mode 0).trans (Form.piece_alternative _ _).symm
    exact congrArg Layout.Piece.markers hpiece

/-- Written expressions hold nothing but expressions. -/
theorem Expr.Written.isPlain {part : Part} {e : Expr} (h : Expr.Written part e) :
    e.isPlain = true := by
  unfold Expr.isPlain
  induction h with
  | block _ _ ih | alternative _ ih =>
    rw [Expr.leaves, Expr.leavesAll_eq_flatMap, List.all_flatMap]
    exact List.all_eq_true.mpr ih
  | negatedSet _ _ ih =>
    rw [Expr.leaves, Expr.leaves, Expr.leavesAll_eq_flatMap, List.all_flatMap]
    exact List.all_eq_true.mpr ih
  | plain _ ih | repeated _ _ _ ih | group _ ih | single _ ih | negated _ ih => exact ih
  | _ => rfl

end Written

end GrammarManual
