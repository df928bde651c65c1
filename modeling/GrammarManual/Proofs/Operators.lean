import GrammarManual.Proofs.Form
import GrammarManual.Proofs.Places

/-!
# Proofs/Operators: operators stand by their operands

* `Expr.Emits` -- the marks that an expression writes itself, with those of its parts around them;
* **`Expr.Written.origin`** -- every mark of a written body stands between parts or is written by
  an expression that occurs at its place;
* `Expr.IsBlank` -- groups with nothing to show. `Expr.Written.showsAs` says that these are the only
  operands without marks;
* **`operators_stand_by_operands`** -- a suffix, `~` and `..` stand directly by their operands, as
  far as these show anything.
-/

namespace GrammarManual

/-! ## 1. Where marks come from -/

/-- The mark that a literal is shown as. -/
def View.literalMark (v : View) (mode : Mode) (text : String) : Marker :=
  match v.literals.shown? mode text with
  | some token => .identifier token
  | none => .string text

namespace Expr

section Emits

variable (v : View) (mode : Mode)

/-- An expression, its depth, and a mark that it writes itself: the other marks of the expression
    before it, the mark, and those behind it. -/
inductive Emits : Nat → Expr → List Marker → Marker → List Marker → Prop where
  | sign (depth : Nat) (operand : Expr) (times : Repetition) (greedy : Bool) :
      Emits depth (.repeated operand times greedy) (operand.marks v mode depth)
        (.symbol times.sign) (Layout.lazyMark greedy).markers
  | lazy (depth : Nat) (operand : Expr) (times : Repetition) :
      Emits depth (.repeated operand times false)
        (operand.marks v mode depth ++ [.symbol times.sign]) (.symbol "?") []
  | tilde (depth : Nat) (operand : Expr) :
      Emits depth (.negated operand) [] (.symbol "~") (operand.marks v mode depth)
  | dots (depth : Nat) (first last : Expr) :
      Emits depth (.range first last) (first.marks v mode depth) (.string "..")
        (last.marks v mode depth)
  | opening (depth : Nat) (text : String) :
      Emits depth (.charset text) [] (.symbol "[") [.string text, .symbol "]"]
  | content (depth : Nat) (text : String) :
      Emits depth (.charset text) [.symbol "["] (.string text) [.symbol "]"]
  | closing (depth : Nat) (text : String) :
      Emits depth (.charset text) [.symbol "[", .string text] (.symbol "]") []
  | wildcard (depth : Nat) : Emits depth .wildcard [] (.symbol ".") []
  | reference (depth : Nat) (name : String) : Emits depth (.reference name) [] (.identifier name) []
  | literal (depth : Nat) (text : String) :
      Emits depth (.literal text) [] (v.literalMark mode text) []

/-- The marks that stand between parts. -/
def gaps : List Marker := [.whitespace, .lineBreak, .symbol "|", .symbol "(", .symbol ")"]

/-- A written part inside of some group writes this mark, at this place of the whole. -/
def ComesFrom (depth : Nat) (e : Expr) (pre : List Marker) (m : Marker) (post : List Marker) :
    Prop :=
  ∃ part depth' x before after before' after', Expr.Written part x ∧
    Occurs v mode depth e before (depth' + 1) x after ∧
    Emits v mode (depth' + 1) x before' m after' ∧
    pre = before ++ before' ∧ post = after' ++ after

/-- Every mark stands between parts or is written by a part that occurs at its place. -/
def HasOrigins (depth : Nat) (e : Expr) : Prop :=
  ∀ pre m post, e.marks v mode depth = pre ++ m :: post →
    m ∈ gaps ∨ ComesFrom v mode depth e pre m post

end Emits

variable {v : View} {mode : Mode}

theorem ComesFrom.self {part : Part} {depth : Nat} {e : Expr} {pre post : List Marker} {m : Marker}
    (h : Expr.Written part e) (hm : Emits v mode (depth + 1) e pre m post) :
    ComesFrom v mode (depth + 1) e pre m post :=
  ⟨part, depth, e, [], [], pre, post, h, .here _ _, hm, rfl, (List.append_nil _).symm⟩

/-- What a part writes is written inside the whole. -/
theorem ComesFrom.inside {depth depth' : Nat} {e x : Expr}
    {before after pre post : List Marker} {m : Marker}
    (hc : Child v mode depth e before depth' x after) (h : ComesFrom v mode depth' x pre m post) :
    ComesFrom v mode depth e (before ++ pre) m (post ++ after) := by
  obtain ⟨part, d, y, b, a, b', a', hw, ho, hm, rfl, rfl⟩ := h
  exact ⟨part, d, y, before ++ b, a ++ after, b', a', hw, .inside hc ho, hm,
    (List.append_assoc _ _ _).symm, List.append_assoc _ _ _⟩

theorem HasOrigins.inside {depth depth' : Nat} {e x : Expr} {before after front more : List Marker}
    {m : Marker} (h : HasOrigins v mode depth' x) (hc : Child v mode depth e before depth' x after)
    (hx : x.marks v mode depth' = front ++ m :: more) :
    m ∈ gaps ∨ ComesFrom v mode depth e (before ++ front) m (more ++ after) :=
  (h front m more hx).imp id (.inside hc)

theorem hasOrigins_group {depth : Nat} {es : List Expr}
    (h : ∀ e ∈ es, HasOrigins v mode (depth + 1) e) :
    HasOrigins v mode depth (.choice es) := by
  intro pre m post hm
  rcases group_place hm with hgap | ⟨xs, x, ys, front, more, rfl, hx, rfl, rfl⟩
  · exact .inl hgap
  · exact (h x (by simp)).inside (.alternative depth xs x ys) hx

theorem hasOrigins_tokenSet {depth : Nat} {es : List Expr}
    (h : ∀ e ∈ es, HasOrigins v mode (depth + 1) e) :
    HasOrigins v mode depth (.tokenSet es) := by
  intro pre m post hm
  rw [marks_tokenSet] at hm
  rcases group_place hm with hgap | ⟨xs, x, ys, front, more, rfl, hx, rfl, rfl⟩
  · exact .inl hgap
  · exact (h x (by simp)).inside (.member depth xs x ys) hx

theorem hasOrigins_sequence {depth : Nat} {items : List Expr}
    (h : ∀ e ∈ items, HasOrigins v mode depth e) :
    HasOrigins v mode depth (.sequence items) := by
  intro pre m post hm
  rcases sequence_place hm with hgap | ⟨x, hx, before, after, front, more, hc, hxm, rfl, rfl⟩
  · refine .inl ?_
    rcases hgap with rfl | rfl <;> simp [gaps]
  · exact (h x hx).inside hc hxm

theorem hasOrigins_negated {depth : Nat} {operand : Expr}
    (hw : Expr.Written .operand (.negated operand))
    (h : HasOrigins v mode (depth + 1) operand) :
    HasOrigins v mode (depth + 1) (.negated operand) := by
  intro pre m post hm
  rw [marks_negated] at hm
  cases pre with
  | nil =>
    cases hm
    exact .inr (.self hw (.tilde _ operand))
  | cons p pre =>
    obtain ⟨rfl, hrest⟩ := List.cons.inj hm
    have horigin := h.inside (.negated (depth + 1) operand) hrest
    rwa [List.append_nil] at horigin

theorem marks_literal (depth : Nat) (text : String) :
    (Expr.literal text).marks v mode depth = [v.literalMark mode text] := by
  rw [marks, layout, View.literal_eq, View.literalMark]
  cases v.literals.shown? mode text <;> rfl

/-- An expression of one mark writes it itself. -/
theorem hasOrigins_mark {part : Part} {depth : Nat} {e : Expr} {mark : Marker}
    (h : Expr.Written part e) (hmarks : e.marks v mode (depth + 1) = [mark])
    (hmark : Emits v mode (depth + 1) e [] mark []) : HasOrigins v mode (depth + 1) e := by
  intro pre m post hm
  rw [hmarks] at hm
  cases pre with
  | nil =>
    cases hm
    exact .inr (.self h hmark)
  | cons p pre => exact absurd (List.cons.inj hm).2 (by simp)

theorem hasOrigins_literal {depth : Nat} {text : String} (h : IsQuoted text) :
    HasOrigins v mode (depth + 1) (.literal text) :=
  hasOrigins_mark (.literal h) (marks_literal _ text) (.literal _ text)

theorem hasOrigins_charset (depth : Nat) (text : String) :
    HasOrigins v mode (depth + 1) (.charset text) := by
  intro pre m post hm
  have hself : Expr.Written .member (.charset text) := .charset text
  have hm' : [.symbol "[", .string text, .symbol "]"] = pre ++ m :: post := hm
  match pre with
  | [] =>
    cases hm'
    exact .inr (.self hself (.opening _ text))
  | [_] =>
    cases hm'
    exact .inr (.self hself (.content _ text))
  | [_, _] =>
    cases hm'
    exact .inr (.self hself (.closing _ text))
  | _ :: _ :: _ :: pre => exact absurd hm' (by simp)

theorem hasOrigins_range {depth : Nat} {first last : String} (hf : IsQuoted first)
    (hl : IsQuoted last) :
    HasOrigins v mode (depth + 1) (.range (.literal first) (.literal last)) := by
  intro pre m post hm
  rw [marks_range] at hm
  rcases eq_append_cons_of_append hm with ⟨more, hfirst, rfl⟩ | ⟨front, rfl, hrest⟩
  · exact (hasOrigins_literal hf).inside (.first _ _ _) hfirst
  · cases front with
    | nil =>
      cases hrest
      rw [List.append_nil]
      exact .inr (.self (.range hf hl) (.dots _ _ _))
    | cons p front =>
      obtain ⟨rfl, hlast⟩ := List.cons.inj hrest
      have horigin := (hasOrigins_literal hl).inside
        (.last (depth + 1) (.literal first) (.literal last)) hlast
      rw [List.append_nil, List.append_assoc] at horigin
      exact horigin

/-- The suffix of an expression is its sign and, where it is lazy, a `?`. -/
theorem eq_of_suffix {times : Repetition} {greedy : Bool} {front post : List Marker} {m : Marker}
    (h : .symbol times.sign :: (Layout.lazyMark greedy).markers = front ++ m :: post) :
    (front = [] ∧ m = .symbol times.sign ∧ post = (Layout.lazyMark greedy).markers) ∨
      (greedy = false ∧ front = [.symbol times.sign] ∧ m = .symbol "?" ∧ post = []) := by
  cases front with
  | nil =>
    cases h
    exact .inl ⟨rfl, rfl, rfl⟩
  | cons p front =>
    obtain ⟨rfl, hlazy⟩ := List.cons.inj h
    cases greedy with
    | true => exact absurd hlazy (by simp [Layout.lazyMark, Layout.markers])
    | false =>
      cases front with
      | nil =>
        cases hlazy
        exact .inr ⟨rfl, rfl, rfl, rfl⟩
      | cons q front => exact absurd hlazy (by simp [Layout.lazyMark, Layout.markers])

theorem hasOrigins_repeated {depth : Nat} {operand : Expr} {times : Repetition} {greedy : Bool}
    (hw : Expr.Written .element (.repeated operand times greedy))
    (h : HasOrigins v mode (depth + 1) operand) :
    HasOrigins v mode (depth + 1) (.repeated operand times greedy) := by
  intro pre m post hm
  rw [marks_repeated] at hm
  rcases eq_append_cons_of_append hm with ⟨more, hop, rfl⟩ | ⟨front, rfl, hrest⟩
  · exact h.inside (.repeated (depth + 1) operand times greedy) hop
  · rcases eq_of_suffix hrest with ⟨rfl, rfl, rfl⟩ | ⟨rfl, rfl, rfl, rfl⟩
    · rw [List.append_nil]
      exact .inr (.self hw (.sign _ operand times greedy))
    · exact .inr (.self hw (.lazy _ operand times))

/-- **Every mark of a written expression has an origin.** -/
theorem Written.origin {part : Part} {e : Expr} (h : Expr.Written part e) (depth : Nat) :
    HasOrigins v mode (depth + 1) e := by
  induction h generalizing depth with
  | block _ _ ih => exact hasOrigins_group fun e he => ih e he _
  | alternative _ ih => exact hasOrigins_sequence fun e he => ih e he _
  | predicate | action =>
    intro pre m post hm
    have hnil : ([] : List Marker) = pre ++ m :: post := hm
    simp at hnil
  | plain _ ih | group _ ih | single _ ih => exact ih depth
  | repeated times greedy hw ih => exact hasOrigins_repeated (.repeated times greedy hw) (ih depth)
  | wildcard => exact hasOrigins_mark .wildcard rfl (.wildcard _)
  | negated hw ih => exact hasOrigins_negated (.negated hw) (ih depth)
  | negatedSet hne hw ih =>
    exact hasOrigins_negated (.negatedSet hne hw) (hasOrigins_tokenSet fun e he => ih e he _)
  | reference name => exact hasOrigins_mark (.reference name) rfl (.reference _ name)
  | literal h => exact hasOrigins_literal h
  | charset text => exact hasOrigins_charset depth text
  | range hf hl => exact hasOrigins_range hf hl

/-- **Every mark of a body has an origin.** -/
theorem Written.body_origin {e : Expr} (h : Expr.Written .block e) : HasOrigins v mode 0 e := by
  cases h with
  | block _ h => exact hasOrigins_group fun a ha => (h a ha).origin 0

/-! ## 2. Operands -/

/-- A group with nothing to show. -/
inductive IsBlank : Expr → Prop where
  | empty : IsBlank (.choice [.sequence []])
  | silent {e : Expr} (h : e.isSilent = true) : IsBlank (.choice [.sequence [e]])
  | group {e : Expr} (h : IsBlank e) : IsBlank (.choice [.sequence [e]])

end Expr

/-- Marks that an operator can stand behind: they end, but not in a gap or an opening bracket. -/
def EndsTight (marks : List Marker) : Prop :=
  ∃ front last, marks = front ++ [last] ∧
    last ∉ [Marker.whitespace, .lineBreak, .symbol "|", .symbol "("]

/-- Marks that an operator can stand before: they begin, but not in a gap or a closing bracket. -/
def StartsTight (marks : List Marker) : Prop :=
  ∃ first more, marks = first :: more ∧
    first ∉ [Marker.whitespace, .lineBreak, .symbol "|", .symbol ")"]

theorem EndsTight.append {marks : List Marker} (h : EndsTight marks) (before : List Marker) :
    EndsTight (before ++ marks) := by
  obtain ⟨front, last, rfl, hlast⟩ := h
  exact ⟨before ++ front, last, (List.append_assoc _ _ _).symm, hlast⟩

namespace Expr

variable {v : View} {mode : Mode}

theorem tight_literalMark (text : String) :
    EndsTight [v.literalMark mode text] ∧ StartsTight [v.literalMark mode text] := by
  unfold View.literalMark
  cases v.literals.shown? mode text with
  | none => exact ⟨⟨[], _, rfl, by simp⟩, ⟨_, [], rfl, by simp⟩⟩
  | some token => exact ⟨⟨[], _, rfl, by simp⟩, ⟨_, [], rfl, by simp⟩⟩

/-- A member of a set begins and ends with marks of its own. -/
theorem Written.tight_member {e : Expr} (h : Expr.Written .member e) (depth : Nat) :
    EndsTight (e.marks v mode depth) ∧ StartsTight (e.marks v mode depth) := by
  cases h with
  | reference name =>
    exact ⟨⟨[], .identifier name, rfl, by simp⟩, ⟨.identifier name, [], rfl, by simp⟩⟩
  | literal =>
    rw [marks_literal]
    exact tight_literalMark _
  | charset text =>
    exact ⟨⟨[.symbol "[", .string text], .symbol "]", rfl, by simp⟩,
      ⟨.symbol "[", [.string text, .symbol "]"], rfl, by simp⟩⟩
  | @range first last _ _ =>
    rw [marks_range, marks_literal, marks_literal]
    have hfirst : StartsTight [v.literalMark mode first] := (tight_literalMark first).2
    refine ⟨(tight_literalMark last).1.append [_, .string ".."], ?_⟩
    obtain ⟨mark, more, hmark, hne⟩ := hfirst
    cases hmark
    exact ⟨_, _, rfl, hne⟩

/-- A group in brackets begins and ends with them. -/
theorem tight_brackets {depth : Nat} {es : List Expr} (h : needsBrackets depth es = true) :
    EndsTight ((Expr.choice es).marks v mode depth) ∧
      StartsTight ((Expr.choice es).marks v mode depth) := by
  rw [marks_choice, h, Layout.writeChoice_eq]
  exact ⟨⟨_, .symbol ")", rfl, by simp⟩, ⟨.symbol "(", _, rfl, by simp⟩⟩

/-- A group without brackets has the marks of its only alternative. -/
theorem marks_bare {depth : Nat} {e : Expr} (h : needsBrackets depth [e] = false) :
    (Expr.choice [e]).marks v mode depth = e.marks v mode (depth + 1) := by
  rw [marks_choice, h, Layout.writeChoice_eq, List.map_singleton, List.intercalate_singleton]
  simp

/-- A set behind `~` begins and ends with marks of its own. -/
theorem tight_tokenSet {members : List Expr} (hne : members ≠ [])
    (h : ∀ e ∈ members, Expr.Written .member e) (depth : Nat) :
    EndsTight ((Expr.tokenSet members).marks v mode (depth + 1)) ∧
      StartsTight ((Expr.tokenSet members).marks v mode (depth + 1)) := by
  rw [marks_tokenSet]
  cases hb : needsBrackets (depth + 1) members with
  | true => exact tight_brackets hb
  | false =>
    have hk : keepsBrackets members = false := by rw [← needsBrackets_eq depth, hb]
    obtain ⟨only, rfl⟩ := eq_single_of_unbracketed hne hk
    rw [marks_bare hb]
    exact (h only List.mem_cons_self).tight_member _

/-- What `~` stands before begins with a mark of its own. -/
theorem Written.tight_negated {operand : Expr} (h : Expr.Written .operand (.negated operand))
    (depth : Nat) : EndsTight (operand.marks v mode (depth + 1)) ∧
      StartsTight (operand.marks v mode (depth + 1)) := by
  cases h with
  | group h => cases h
  | single h => cases h
  | negated h => exact h.tight_member _
  | negatedSet hne h => exact tight_tokenSet hne h depth

/-- An operand is a blank group or ends with a mark of its own. -/
def ShowsOrBlank (v : View) (mode : Mode) (depth : Nat) (e : Expr) : Prop :=
  (e.IsBlank ∧ e.marks v mode depth = []) ∨ EndsTight (e.marks v mode depth)

/-- What an expression shows at its end, by the part it plays. -/
def ShowsAs (v : View) (mode : Mode) : Part → Expr → Prop
  | .member, e => Expr.Written .member e
  | .operand, e | .block, e => ∀ depth, e.ShowsOrBlank v mode (depth + 1)
  | .element, e => e.isSilent = true ∨
      (e.isOperator = false → ∀ depth, e.ShowsOrBlank v mode (depth + 1))
  | .alternative, e => ∃ items, e = .sequence items ∧ ∀ x ∈ items, x.isSilent = true ∨
      (x.isOperator = false → ∀ depth, x.ShowsOrBlank v mode (depth + 1))

theorem marks_single (depth : Nat) (e : Expr) :
    (Expr.sequence [e]).marks v mode depth = e.marks v mode depth :=
  congrArg Layout.Piece.markers (Layout.piece_single (e.layout v mode depth) v.limit)

theorem marks_silent (depth : Nat) {e : Expr} (h : e.isSilent = true) :
    e.marks v mode depth = [] := by
  cases e with
  | predicate | action | foreign => rfl
  | _ => cases h

/-- A group is blank or ends with a mark of its own if that is so of the items of its
    alternatives. -/
theorem showsAs_block {alternatives : List Expr} (hne : alternatives ≠ [])
    (h : ∀ a ∈ alternatives, a.ShowsAs v mode .alternative) :
    (Expr.choice alternatives).ShowsAs v mode .block := by
  intro depth
  cases hb : needsBrackets (depth + 1) alternatives with
  | true => exact .inr (tight_brackets hb).1
  | false =>
    have hk : keepsBrackets alternatives = false := by rw [← needsBrackets_eq depth, hb]
    obtain ⟨only, rfl⟩ := eq_single_of_unbracketed hne hk
    obtain ⟨items, rfl, hitems⟩ := h only List.mem_cons_self
    unfold ShowsOrBlank
    rw [marks_bare hb]
    rcases items_of_unbracketed hk with rfl | ⟨x, rfl, hplain⟩
    · exact .inl ⟨.empty, rfl⟩
    · rw [marks_single]
      rcases hitems x List.mem_cons_self with hsilent | hx
      · exact .inl ⟨.silent hsilent, marks_silent _ hsilent⟩
      · rcases hx hplain (depth + 1) with ⟨hblank, hnil⟩ | hends
        · exact .inl ⟨.group hblank, hnil⟩
        · exact .inr hends

/-- **An operand is a blank group or ends with a mark of its own.** -/
theorem Written.showsAs {part : Part} {e : Expr} (h : Expr.Written part e) :
    e.ShowsAs v mode part := by
  induction h with
  | block hne _ ih => exact showsAs_block hne ih
  | alternative _ ih => exact ⟨_, rfl, ih⟩
  | predicate | action => exact .inl rfl
  | plain _ ih => exact .inr fun _ => ih
  | repeated =>
    refine .inr fun h => ?_
    cases h
  | group _ ih => exact ih
  | wildcard => exact fun _ => .inr ⟨[], .symbol ".", rfl, by simp⟩
  | single h => exact fun _ => .inr (h.tight_member _).1
  | @negated operand h _ =>
    intro depth
    rw [ShowsOrBlank, marks_negated]
    exact .inr ((h.tight_member _).1.append [.symbol "~"])
  | @negatedSet members hne h _ =>
    intro depth
    rw [ShowsOrBlank, marks_negated]
    exact .inr ((tight_tokenSet hne h depth).1.append [.symbol "~"])
  | reference name => exact .reference name
  | literal h => exact .literal h
  | charset text => exact .charset text
  | range hf hl => exact .range hf hl

/-- What has a suffix is an operand. -/
theorem Written.operand_of_repeated {part : Part} {operand : Expr} {times : Repetition}
    {greedy : Bool} (h : Expr.Written part (.repeated operand times greedy)) :
    Expr.Written .operand operand := by
  cases h with
  | repeated _ _ h => exact h
  | plain h =>
    cases h with
    | group h => cases h
    | single h => cases h
  | group h => cases h
  | single h => cases h

theorem Written.operand_of_negated {part : Part} {operand : Expr}
    (h : Expr.Written part (.negated operand)) : Expr.Written .operand (.negated operand) := by
  cases h with
  | plain h => exact h
  | group h => cases h
  | single h => cases h
  | negated h => exact .negated h
  | negatedSet hne h => exact .negatedSet hne h

theorem Written.literals_of_range {part : Part} {first last : Expr}
    (h : Expr.Written part (.range first last)) :
    ∃ a b, first = .literal a ∧ last = .literal b ∧ IsQuoted a ∧ IsQuoted b := by
  cases h with
  | range hf hl => exact ⟨_, _, rfl, rfl, hf, hl⟩
  | plain h =>
    cases h with
    | group h => cases h
    | single h =>
      cases h with
      | range hf hl => exact ⟨_, _, rfl, rfl, hf, hl⟩
  | group h => cases h
  | single h =>
    cases h with
    | range hf hl => exact ⟨_, _, rfl, rfl, hf, hl⟩

theorem Written.quoted_of_literal {part : Part} {text : String}
    (h : Expr.Written part (.literal text)) : IsQuoted text := by
  cases h with
  | literal h => exact h
  | plain h =>
    cases h with
    | group h => cases h
    | single h =>
      cases h with
      | literal h => exact h
  | group h => cases h
  | single h =>
    cases h with
    | literal h => exact h

end Expr

theorem not_isQuoted_dots : ¬ IsQuoted ".." := by
  rintro ⟨inner, h⟩
  have hhead : some '.' = some '\'' := congrArg List.head? h
  exact absurd hhead (by decide)

/-! ## 3. Operators -/

section Operators

variable (v : View) (mode : Mode) (body : Expr) (marks : List Marker)

/-- A suffix stands behind its operand, which ends with a mark of its own unless it is a blank
    group; the `?` of a lazy suffix stands behind the sign of the suffix. -/
def SuffixesStandBehindOperands : Prop :=
  ∀ pre sign post, marks = pre ++ .symbol sign :: post → sign ∈ ["?", "+", "*"] →
    ∃ operand times greedy depth before after,
      Expr.Occurs v mode 0 body before depth (.repeated operand times greedy) after ∧
        ((sign = times.sign ∧ pre = before ++ operand.marks v mode depth ∧
            post = (if greedy then [] else [.symbol "?"]) ++ after ∧
            ((operand.IsBlank ∧ operand.marks v mode depth = []) ∨
              EndsTight (operand.marks v mode depth))) ∨
          (sign = "?" ∧ greedy = false ∧ post = after ∧
            pre = before ++ operand.marks v mode depth ++ [.symbol times.sign]))

/-- A `~` stands before its operand, which begins with a mark of its own. -/
def TildesStandBeforeOperands : Prop :=
  ∀ pre post, marks = pre ++ .symbol "~" :: post →
    ∃ operand depth before after,
      Expr.Occurs v mode 0 body before depth (.negated operand) after ∧
        pre = before ∧ post = operand.marks v mode depth ++ after ∧
        StartsTight (operand.marks v mode depth)

/-- The dots of a range stand between the marks of its two literals. Dots that are no operator are
    the content of a character set, between its brackets. -/
def DotsStandBetweenLiterals : Prop :=
  ∀ pre post, marks = pre ++ .string ".." :: post →
    ∃ depth before after,
      (∃ first last, IsQuoted first ∧ IsQuoted last ∧
        Expr.Occurs v mode 0 body before depth (.range (.literal first) (.literal last)) after ∧
        pre = before ++ [v.literalMark mode first] ∧ post = v.literalMark mode last :: after) ∨
      (Expr.Occurs v mode 0 body before depth (.charset "..") after ∧
        pre = before ++ [.symbol "["] ∧ post = .symbol "]" :: after)

variable {v mode body}

theorem Expr.Written.suffixes (h : Expr.Written .block body) :
    SuffixesStandBehindOperands v mode body (body.marks v mode 0) := by
  intro pre sign post hm hsign
  rcases h.body_origin pre _ post hm with
    hgap | ⟨part, depth, x, before, after, b, a, hw, ho, he, rfl, rfl⟩
  · simp only [Expr.gaps, List.mem_cons, List.not_mem_nil, or_false, reduceCtorEq, false_or,
      Marker.symbol.injEq] at hgap
    rcases hgap with rfl | rfl | rfl <;> simp at hsign
  · generalize hmark : Marker.symbol sign = mark at he
    cases he with
    | sign operand times greedy =>
      cases hmark
      refine ⟨operand, times, greedy, depth + 1, before, after, ho, .inl ⟨rfl, rfl, ?_,
        hw.operand_of_repeated.showsAs depth⟩⟩
      cases greedy <;> rfl
    | lazy operand times =>
      cases hmark
      exact ⟨operand, times, false, depth + 1, before, after, ho, .inr ⟨rfl, rfl, rfl,
        (List.append_assoc _ _ _).symm⟩⟩
    | literal text =>
      unfold View.literalMark at hmark
      split at hmark <;> cases hmark
    | tilde | opening | closing | wildcard =>
      cases hmark
      simp at hsign
    | _ => cases hmark

theorem Expr.Written.tildes (h : Expr.Written .block body) :
    TildesStandBeforeOperands v mode body (body.marks v mode 0) := by
  intro pre post hm
  rcases h.body_origin pre _ post hm with
    hgap | ⟨part, depth, x, before, after, b, a, hw, ho, he, rfl, rfl⟩
  · simp [Expr.gaps] at hgap
  · generalize hmark : Marker.symbol "~" = mark at he
    cases he with
    | tilde operand =>
      exact ⟨operand, depth + 1, before, after, ho, List.append_nil _, rfl,
        (hw.operand_of_negated.tight_negated depth).2⟩
    | sign operand times greedy => cases times <;> simp [Repetition.sign] at hmark
    | literal text =>
      unfold View.literalMark at hmark
      split at hmark <;> cases hmark
    | _ => simp at hmark

theorem Expr.Written.dots (h : Expr.Written .block body) :
    DotsStandBetweenLiterals v mode body (body.marks v mode 0) := by
  intro pre post hm
  rcases h.body_origin pre _ post hm with
    hgap | ⟨part, depth, x, before, after, b, a, hw, ho, he, rfl, rfl⟩
  · simp [Expr.gaps] at hgap
  · generalize hmark : Marker.string ".." = mark at he
    cases he with
    | dots first last =>
      obtain ⟨a, b, rfl, rfl, hfirst, hlast⟩ := hw.literals_of_range
      refine ⟨depth + 1, before, after, .inl ⟨a, b, hfirst, hlast, ho, ?_, ?_⟩⟩
      · rw [Expr.marks_literal]
      · rw [Expr.marks_literal]
        rfl
    | content text =>
      cases hmark
      exact ⟨depth + 1, before, after, .inr ⟨ho, rfl, rfl⟩⟩
    | literal text =>
      -- a literal is quoted, so it is not shown as dots
      unfold View.literalMark at hmark
      split at hmark
      · cases hmark
      · cases hmark
        exact absurd hw.quoted_of_literal not_isQuoted_dots
    | _ => simp at hmark

end Operators

/-- **Operators stand by their operands.** In the marks of a written body, in either mode and with
    any width of lines, every suffix, `~` and `..` stands directly by what it belongs to. -/
theorem operators_stand_by_operands {H : Type} (r : Rule) (h : r.body.Written .block) (v : View)
    (mode : Mode) (m : UsageMap H) :
    ∃ l, (runFrom (r.walkBody v mode) m).1 = .ok l ∧
      SuffixesStandBehindOperands v mode r.body l.markers ∧
      TildesStandBeforeOperands v mode r.body l.markers ∧
      DotsStandBetweenLiterals v mode r.body l.markers := by
  refine ⟨r.body.layout v mode 0, ?_, h.suffixes, h.tildes, h.dots⟩
  rw [Rule.walkBody_run, h.isPlain, if_pos rfl]

/-- How a grammar shows literals, on lines of 120 characters. -/
def Grammar.view (g : Grammar) : View where
  literals := LiteralIndex.ofRules (g.rules.filter Rule.isLexer)
  limit := 120

/-- The marks of the first rule of a grammar, as a parser rule. -/
def Grammar.firstMarks (text : List Char) : Option (List Marker) :=
  match Grammar.read text with
  | .ok g => g.rules.head?.map fun r => r.body.marks g.view .parser 0
  | .error _ => none

theorem Grammar.exists_of_firstMarks {text : List Char} {marks : List Marker}
    (h : Grammar.firstMarks text = some marks) :
    ∃ g r, Grammar.read text = .ok g ∧ r ∈ g.rules ∧ r.body.marks g.view .parser 0 = marks := by
  unfold firstMarks at h
  split at h
  · rename_i g hg
    obtain ⟨r, hr, hmarks⟩ := Option.map_eq_some_iff.mp h
    exact ⟨g, r, hg, List.mem_of_head? hr, hmarks⟩
  · cases h

theorem not_endsTight_of_gap (front : List Marker) : ¬ EndsTight (front ++ [.whitespace]) := by
  rintro ⟨front', last, h, hlast⟩
  obtain ⟨-, hlast'⟩ := List.append_inj' h rfl
  cases hlast'
  simp at hlast

/-- A suffix behind a blank group stands behind a gap, and the dots of a range stand behind the name
    of a token if there is one for its literal. -/
theorem operators_stand_apart :
    (∃ g r, Grammar.read "grammar T;\nr: x ()? ;\nx: 'y' ;\n".toList = .ok g ∧ r ∈ g.rules ∧
      ¬ ∀ pre sign post, r.body.marks g.view .parser 0 = pre ++ .symbol sign :: post →
        sign ∈ ["?", "+", "*"] → EndsTight pre) ∧
    (∃ g r, Grammar.read "grammar T;\nr: 'a'..'b' ;\nA: 'a' ;\n".toList = .ok g ∧ r ∈ g.rules ∧
      ¬ ∀ pre post, r.body.marks g.view .parser 0 = pre ++ .string ".." :: post →
        ∃ front first last more, pre = front ++ [.string first] ∧ post = .string last :: more ∧
          IsQuoted first ∧ IsQuoted last) := by
  constructor
  · have hmarks : Grammar.firstMarks "grammar T;\nr: x ()? ;\nx: 'y' ;\n".toList =
        some [.identifier "x", .whitespace, .symbol "?"] := by decide +kernel
    obtain ⟨g, r, hg, hr, hm⟩ := Grammar.exists_of_firstMarks hmarks
    refine ⟨g, r, hg, hr, fun hall => ?_⟩
    exact not_endsTight_of_gap [.identifier "x"]
      (hall [.identifier "x", .whitespace] "?" [] hm (by simp))
  · have hmarks : Grammar.firstMarks "grammar T;\nr: 'a'..'b' ;\nA: 'a' ;\n".toList =
        some [.identifier "A", .string "..", .string "'b'"] := by decide +kernel
    obtain ⟨g, r, hg, hr, hm⟩ := Grammar.exists_of_firstMarks hmarks
    refine ⟨g, r, hg, hr, fun hall => ?_⟩
    obtain ⟨front, first, last, more, hpre, -⟩ := hall [.identifier "A"] [.string "'b'"] hm
    have hend : [] ++ [Marker.identifier "A"] = front ++ [.string first] := hpre
    cases (List.append_inj' hend rfl).2

/-- The operators of a body that was read, one of them behind a group with nothing to show. -/
theorem operators_stand_by_operands_read :
    ∃ g r, Grammar.read "r: ~'a' ('b'..'c')+? ()? ;".toList = .ok g ∧ r ∈ g.rules ∧
      ∃ l, (runFrom (r.walkBody g.view .parser) (.empty : UsageMap Nat)).1 = .ok l ∧
        SuffixesStandBehindOperands g.view .parser r.body l.markers ∧
        TildesStandBeforeOperands g.view .parser r.body l.markers ∧
        DotsStandBetweenLiterals g.view .parser r.body l.markers := by
  have hmarks : (Grammar.firstMarks "r: ~'a' ('b'..'c')+? ()? ;".toList).isSome = true := by
    decide +kernel
  obtain ⟨marks, hmarks⟩ := Option.isSome_iff_exists.mp hmarks
  obtain ⟨g, r, hg, hr, -⟩ := Grammar.exists_of_firstMarks hmarks
  exact ⟨g, r, hg, hr,
    operators_stand_by_operands r (written_of_read hg r hr) g.view .parser .empty⟩

end GrammarManual
