import GrammarManual.Proofs.Form
import GrammarManual.Proofs.Rounds
import Mathlib.Data.List.Forall2

/-!
# Proofs/Breaks: one body in lines of two widths

The greatest width of a line decides where a body breaks, at every depth of nesting. Here the same
body is laid out twice.

* `rejoin` -- marks with a blank in the place of every break that four blanks follow. The breaks
  before alternatives, which two blanks follow, stay;
* `RejoinAlike` -- marks that come to the same, with whatever comes to the same behind them; one
  lemma for each way to write marks;
* `SameButBreaks` -- two layouts of one body. `sameButBreaks_layout` goes through all expressions;
* **`limit_moves_breaks_alone`** -- another width changes neither the length of a rule, nor its
  section, nor what it records, and its marks in no more than such breaks.
-/

namespace GrammarManual

/-! ## 1. Rejoined marks -/

/-- Puts a blank in the place of every break that is followed by four blanks, from the left. -/
def rejoin : List Marker → List Marker
  | .lineBreak :: .whitespace :: .whitespace :: .whitespace :: .whitespace :: rest =>
    .whitespace :: rejoin rest
  | mark :: rest => mark :: rejoin rest
  | [] => []

theorem rejoin_cons {mark : Marker} (h : mark ≠ .lineBreak) (rest : List Marker) :
    rejoin (mark :: rest) = mark :: rejoin rest := by
  rw [rejoin]
  rintro _ rfl
  exact absurd rfl h

/-- Marks that come to the same, with whatever comes to the same behind them. -/
def RejoinAlike (xs ys : List Marker) : Prop :=
  ∀ xs' ys', rejoin xs' = rejoin ys' → rejoin (xs ++ xs') = rejoin (ys ++ ys')

namespace RejoinAlike

theorem nil : RejoinAlike [] [] := fun _ _ h => h

theorem append {xs ys xs' ys' : List Marker} (h : RejoinAlike xs ys) (h' : RejoinAlike xs' ys') :
    RejoinAlike (xs ++ xs') (ys ++ ys') := by
  intro xs'' ys'' hrest
  rw [List.append_assoc, List.append_assoc]
  exact h _ _ (h' _ _ hrest)

theorem of_notMem {xs : List Marker} (h : .lineBreak ∉ xs) : RejoinAlike xs xs := by
  intro xs' ys' hrest
  induction xs with
  | nil => exact hrest
  | cons mark xs ih =>
    rw [List.cons_append, List.cons_append, rejoin_cons (List.ne_of_not_mem_cons h).symm,
      rejoin_cons (List.ne_of_not_mem_cons h).symm, ih (List.not_mem_of_not_mem_cons h)]

theorem single {mark : Marker} (h : mark ≠ .lineBreak) : RejoinAlike [mark] [mark] :=
  of_notMem fun hm => h (List.mem_singleton.mp hm).symm

theorem flatten {xss yss : List (List Marker)} (h : List.Forall₂ RejoinAlike xss yss) :
    RejoinAlike xss.flatten yss.flatten := by
  induction h with
  | nil => exact nil
  | cons hx _ ih => exact hx.append ih

theorem intercalate {sep : List Marker} (hsep : RejoinAlike sep sep) {xss yss : List (List Marker)}
    (h : List.Forall₂ RejoinAlike xss yss) :
    RejoinAlike (List.intercalate sep xss) (List.intercalate sep yss) := by
  cases h with
  | nil => exact nil
  | cons hx hxs =>
    rw [Layout.intercalate_cons, Layout.intercalate_cons]
    refine hx.append ?_
    induction hxs with
    | nil => exact nil
    | cons hy _ ih => exact (hsep.append hy).append ih

end RejoinAlike

namespace Layout

/-- What stands before a piece that is not the first: a blank or an indented break. -/
inductive Gap : List Marker → Prop where
  | blank : Gap [.whitespace]
  | broken : Gap (newLine continuationIndent)

theorem Gap.alike {xs ys : List Marker} (hx : Gap xs) (hy : Gap ys) : RejoinAlike xs ys := by
  intro xs' ys' hrest
  have hblank : ∀ {gap : List Marker}, Gap gap → ∀ rest,
      rejoin (gap ++ rest) = .whitespace :: rejoin rest := by
    intro gap hgap rest
    cases hgap <;> rfl
  rw [hblank hx, hblank hy, hrest]

theorem exists_gap (limit : Int) (used : Nat) (p : Piece) (ps : List Piece) :
    ∃ gap used', Gap gap ∧
      moreMarks limit used (p :: ps) = gap ++ (p.markers ++ moreMarks limit used' ps) := by
  rw [moreMarks]
  by_cases h : ((used + p.width : Nat) : Int) > limit
  · rw [if_pos h]
    exact ⟨_, _, .broken, List.append_assoc _ _ _⟩
  · rw [if_neg h]
    exact ⟨_, _, .blank, rfl⟩

theorem alike_separator (brackets : Bool) :
    RejoinAlike (separator brackets) (separator brackets) := by
  intro xs' ys' hrest
  have hsep : ∀ rest, rejoin (separator brackets ++ rest) = separator brackets ++ rejoin rest := by
    cases brackets <;> exact fun _ => rfl
  rw [hsep, hsep, hrest]

/-! ## 2. Layouts -/

/-- Two layouts of one body: they take as many characters, and their marks differ in breaks. -/
structure SameButBreaks (l₁ l₂ : Layout) : Prop where
  isItem : l₁.isItem = l₂.isItem
  length : l₁.length = l₂.length
  marks : RejoinAlike l₁.markers l₂.markers

section

variable {ls₁ ls₂ : List Layout} (h : List.Forall₂ SameButBreaks ls₁ ls₂)

include h

theorem totalLength_alike : totalLength ls₁ = totalLength ls₂ := by
  induction h with
  | nil => rfl
  | cons hl _ ih => rw [totalLength, totalLength, hl.length, ih]

theorem markersOf_alike : List.Forall₂ RejoinAlike (markersOf ls₁) (markersOf ls₂) := by
  induction h with
  | nil => exact .nil
  | cons hl _ ih => exact .cons hl.marks ih

theorem items_alike : List.Forall₂ SameButBreaks (ls₁.filter isItem) (ls₂.filter isItem) := by
  induction h with
  | nil => exact .nil
  | @cons l₁ l₂ _ _ hl _ ih =>
    rw [List.filter_cons, List.filter_cons, ← hl.isItem]
    cases l₁.isItem with
    | true => exact .cons hl ih
    | false => exact ih

theorem moreMarks_alike (limit₁ limit₂ : Int) (used₁ used₂ : Nat) :
    RejoinAlike (moreMarks limit₁ used₁ (ls₁.map piece)) (moreMarks limit₂ used₂ (ls₂.map piece)) := by
  induction h generalizing used₁ used₂ with
  | nil => exact .nil
  | cons hl _ ih =>
    rw [List.map_cons, List.map_cons]
    obtain ⟨gap₁, used₁', hgap₁, hmore₁⟩ := exists_gap limit₁ used₁ _ _
    obtain ⟨gap₂, used₂', hgap₂, hmore₂⟩ := exists_gap limit₂ used₂ _ _
    rw [hmore₁, hmore₂]
    exact (hgap₁.alike hgap₂).append (hl.marks.append (ih _ _))

theorem sameButBreaks_beside : SameButBreaks (.beside ls₁) (.beside ls₂) where
  isItem := rfl
  length := totalLength_alike h
  marks := by
    rw [markers, markers]
    exact .flatten (markersOf_alike h)

theorem sameButBreaks_sequence (limit₁ limit₂ : Int) :
    SameButBreaks (.sequence ls₁ limit₁) (.sequence ls₂ limit₂) where
  isItem := rfl
  length := by
    rw [Layout.length, Layout.length, totalLength_alike h, (items_alike h).length_eq]
  marks := by
    have hitems := items_alike h
    rw [markers, markers, pieces_eq_map, pieces_eq_map]
    generalize ls₁.filter isItem = items₁, ls₂.filter isItem = items₂ at hitems ⊢
    cases hitems with
    | nil => exact .nil
    | cons hl hls =>
      rw [List.map_cons, List.map_cons, writeSequence_cons, writeSequence_cons]
      exact hl.marks.append (moreMarks_alike hls _ _ _ _)

theorem sameButBreaks_choice (brackets : Bool) :
    SameButBreaks (.choice ls₁ brackets) (.choice ls₂ brackets) where
  isItem := rfl
  length := by rw [Layout.length, Layout.length, totalLength_alike h, h.length_eq]
  marks := by
    have hbody := RejoinAlike.intercalate (alike_separator brackets) (markersOf_alike h)
    have hbracket : ∀ text, RejoinAlike (if brackets then [.symbol text] else [])
        (if brackets then [.symbol text] else []) := by
      intro text
      cases brackets with
      | true => exact .single Marker.noConfusion
      | false => exact .nil
    rw [markers, markers, writeChoice_eq, writeChoice_eq]
    exact ((hbracket "(").append hbody).append (hbracket ")")

end

theorem sameButBreaks_symbol (text : String) : SameButBreaks (.symbol text) (.symbol text) :=
  ⟨rfl, rfl, .single Marker.noConfusion⟩

theorem sameButBreaks_string (text : String) : SameButBreaks (.string text) (.string text) :=
  ⟨rfl, rfl, .single Marker.noConfusion⟩

theorem sameButBreaks_identifier (name : String) :
    SameButBreaks (.identifier name) (.identifier name) :=
  ⟨rfl, rfl, .single Marker.noConfusion⟩

theorem sameButBreaks_nothing : SameButBreaks .nothing .nothing := ⟨rfl, rfl, .nil⟩

theorem sameButBreaks_lazyMark (greedy : Bool) :
    SameButBreaks (lazyMark greedy) (lazyMark greedy) := by
  cases greedy with
  | true => exact sameButBreaks_nothing
  | false => exact sameButBreaks_symbol "?"

end Layout

/-! ## 3. Expressions -/

namespace Expr

open Layout

variable (literals : LiteralIndex) (mode : Mode) (limit₁ limit₂ : Int)

mutual

/-- **An expression laid out for two widths.** -/
theorem sameButBreaks_layout : ∀ (e : Expr) (depth : Nat),
    SameButBreaks (e.layout ⟨literals, limit₁⟩ mode depth) (e.layout ⟨literals, limit₂⟩ mode depth)
  | .sequence items, depth => sameButBreaks_sequence (sameButBreaks_layoutAll items depth) _ _
  | .choice alternatives, depth =>
    sameButBreaks_choice (sameButBreaks_layoutAll alternatives (depth + 1)) _
  | .tokenSet members, depth =>
    sameButBreaks_choice (sameButBreaks_layoutAll members (depth + 1)) _
  | .repeated operand times greedy, depth =>
    sameButBreaks_beside (.cons (sameButBreaks_layout operand depth)
      (.cons (sameButBreaks_symbol times.sign) (.cons (sameButBreaks_lazyMark greedy) .nil)))
  | .negated operand, depth =>
    sameButBreaks_beside (.cons (sameButBreaks_symbol "~")
      (.cons (sameButBreaks_layout operand depth) .nil))
  | .range first last, depth =>
    sameButBreaks_beside (.cons (sameButBreaks_layout first depth)
      (.cons (sameButBreaks_string "..") (.cons (sameButBreaks_layout last depth) .nil)))
  | .reference name, _ => sameButBreaks_identifier name
  | .literal text, _ => by
      rw [Expr.layout, Expr.layout, View.literal_eq, View.literal_eq]
      cases literals.shown? mode text with
      | none => exact sameButBreaks_string text
      | some token => exact sameButBreaks_identifier token
  | .charset text, _ =>
    sameButBreaks_beside (.cons (sameButBreaks_symbol "[") (.cons (sameButBreaks_string text)
      (.cons (sameButBreaks_symbol "]") .nil)))
  | .wildcard, _ => sameButBreaks_symbol "."
  | .predicate _, _ => sameButBreaks_nothing
  | .action _, _ => sameButBreaks_nothing
  | .foreign, _ => sameButBreaks_nothing

theorem sameButBreaks_layoutAll : ∀ (es : List Expr) (depth : Nat),
    List.Forall₂ SameButBreaks (layoutAll ⟨literals, limit₁⟩ mode depth es)
      (layoutAll ⟨literals, limit₂⟩ mode depth es)
  | [], _ => .nil
  | e :: es, depth => .cons (sameButBreaks_layout e depth) (sameButBreaks_layoutAll es depth)

end

end Expr

/-! ## 4. Rules -/

/-- The marks around a body are the same whatever the body. -/
theorem Layout.SameButBreaks.framed {l₁ l₂ : Layout} (h : l₁.SameButBreaks l₂) (r : Rule)
    (opens : Option String) (isStart : Bool) :
    rejoin (Item.markers isStart ⟨r, l₁, opens⟩) = rejoin (Item.markers isStart ⟨r, l₂, opens⟩) := by
  have hhead : RejoinAlike
      ((if isStart then [.remark "start"] else []) ++ [.declaration r.name, .description,
        .whitespace, .whitespace, .symbol ":", .whitespace])
      ((if isStart then [.remark "start"] else []) ++ [.declaration r.name, .description,
        .whitespace, .whitespace, .symbol ":", .whitespace]) := by
    refine .of_notMem ?_
    cases isStart <;> simp
  have hframed := hhead _ _ (h.marks (newLine alternativeIndent ++ [.other ";", .endDescription])
    (newLine alternativeIndent ++ [.other ";", .endDescription]) rfl)
  simpa [Item.markers] using hframed

/-- Two outcomes of laying out one rule: the same error, or items that differ in breaks alone. -/
inductive LaidOutAlike : Except WalkError Item → Except WalkError Item → Prop where
  | items {i j : Item} (rule : i.rule = j.rule) (opens : i.opens = j.opens)
      (length : i.body.length = j.body.length)
      (body : rejoin i.body.markers = rejoin j.body.markers)
      (marks : ∀ isStart, rejoin (i.markers isStart) = rejoin (j.markers isStart)) :
    LaidOutAlike (.ok i) (.ok j)
  | stopped (e : WalkError) : LaidOutAlike (.error e) (.error e)

namespace Script.Source

/-- **The width of lines moves breaks and changes nothing else.** A rule is laid out for two widths,
    with the same tokens shown for literals. Either way it has the same length and section and
    records the same usages, and its marks come to the same once every break with its four blanks is
    a blank. It is laid out whenever its body holds nothing but expressions. -/
theorem limit_moves_breaks_alone (s : Source) (literals : LiteralIndex) (limit limit' : Int)
    (mode : Mode) (r : Rule) (m : UsageMap Nat) :
    s.item mode r =
        s.itemIn ⟨LiteralIndex.ofRules s.rules.lexerRules.rules, s.settings.limit⟩ mode r ∧
    ∃ outcome outcome' m', runFrom (s.itemIn ⟨literals, limit⟩ mode r) m = (outcome, m') ∧
      runFrom (s.itemIn ⟨literals, limit'⟩ mode r) m = (outcome', m') ∧
      LaidOutAlike outcome outcome' ∧ ((∃ i, outcome = .ok i) ↔ r.body.isPlain = true) := by
  refine ⟨item_eq_itemIn s mode r, ?_⟩
  rw [itemIn_run, itemIn_run]
  refine ⟨_, _, _, rfl, rfl, ?_⟩
  cases r.body.isPlain with
  | true =>
    have hbody := Expr.sameButBreaks_layout literals mode limit limit' r.body 0
    have hmarks := hbody.marks [] [] rfl
    rw [List.append_nil, List.append_nil] at hmarks
    exact ⟨.items rfl rfl hbody.length hmarks (hbody.framed r _), fun _ => rfl,
      fun _ => ⟨_, rfl⟩⟩
  | false => exact ⟨.stopped _, nofun, nofun⟩

end Script.Source

end GrammarManual
