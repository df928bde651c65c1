import GrammarManual.Proofs.Lines
import GrammarManual.Proofs.Walk

/-!
# Proofs/Marks: the marks of a body are those of its leaves

* `View.mark?` -- the mark that a leaf is shown as;
* `Layout.Shows`, `Layout.ownMarks` -- what holds of all marks of a layout, and the marks that
  layouts are put together with;
* **`shows_layout`** -- a body shows marks of its own and the marks of its leaves;
* **`leaf_mem_layout`** -- and it shows the mark of every leaf.
-/

namespace GrammarManual

/-- The mark that a leaf is shown as. -/
def View.mark? (v : View) (mode : Mode) : Expr → Option Marker
  | .reference name => some (.identifier name)
  | .literal text =>
    match v.literals.shown? mode text with
    | some token => some (.identifier token)
    | none => some (.string text)
  | .charset text => some (.string text)
  | _ => none

namespace Layout

/-! ## 1. Marks of layouts -/

/-- Whatever a layout shows has a property. -/
def Shows (P : Marker → Prop) (l : Layout) : Prop := ∀ mark ∈ l.markers, P mark

/-- The marks that layouts are put together with. -/
def ownMarks : List Marker :=
  [.whitespace, .lineBreak, .symbol "|", .symbol "(", .symbol ")", .symbol "~", .string "..",
    .symbol "[", .symbol "]", .symbol ".", .symbol "?", .symbol "+", .symbol "*"]

variable {P : Marker → Prop}

theorem shows_nothing : Layout.nothing.Shows P := fun _ hmark => absurd hmark List.not_mem_nil

theorem shows_symbol {text : String} (h : P (.symbol text)) : (Layout.symbol text).Shows P :=
  List.forall_mem_singleton.mpr h

theorem shows_string {text : String} (h : P (.string text)) : (Layout.string text).Shows P :=
  List.forall_mem_singleton.mpr h

theorem shows_identifier {name : String} (h : P (.identifier name)) :
    (Layout.identifier name).Shows P :=
  List.forall_mem_singleton.mpr h

theorem mem_beside {parts : List Layout} {mark : Marker} :
    mark ∈ (Layout.beside parts).markers ↔ ∃ l ∈ parts, mark ∈ l.markers := by
  rw [markers, markersOf_eq_map, List.mem_flatten]
  exact ⟨fun ⟨_, hmarks, hmark⟩ => let ⟨l, hl, e⟩ := List.mem_map.mp hmarks; ⟨l, hl, e ▸ hmark⟩,
    fun ⟨l, hl, hmark⟩ => ⟨_, List.mem_map_of_mem hl, hmark⟩⟩

theorem shows_beside {parts : List Layout} (h : ∀ l ∈ parts, l.Shows P) :
    (Layout.beside parts).Shows P := by
  intro mark hmark
  obtain ⟨l, hl, hmark⟩ := mem_beside.mp hmark
  exact h l hl mark hmark

section Own

variable (hown : ∀ mark ∈ ownMarks, P mark)
include hown

theorem shows_sequence {items : List Layout} (limit : Int) (h : ∀ l ∈ items, l.Shows P) :
    (Layout.sequence items limit).Shows P := by
  intro mark hmark
  rw [markers, pieces_eq_map] at hmark
  rcases mem_writeSequence hmark with rfl | rfl | ⟨p, hp, hmark⟩
  · exact hown _ (by decide)
  · exact hown _ (by decide)
  · obtain ⟨l, hl, rfl⟩ := List.mem_map.mp hp
    exact h l (List.mem_filter.mp hl).1 mark hmark

theorem shows_choice {alternatives : List Layout} (brackets : Bool)
    (h : ∀ l ∈ alternatives, l.Shows P) : (Layout.choice alternatives brackets).Shows P := by
  intro mark hmark
  rw [markers, markersOf_eq_map] at hmark
  rcases mem_writeChoice hmark with hmark | ⟨marks, hmarks, hmark⟩
  · refine hown mark ?_
    simp only [List.mem_cons, List.not_mem_nil, or_false] at hmark
    rcases hmark with rfl | rfl | rfl | rfl | rfl <;> decide
  · obtain ⟨l, hl, rfl⟩ := List.mem_map.mp hmarks
    exact h l hl mark hmark

theorem shows_repeated {operand : Layout} (h : operand.Shows P) (times : Repetition)
    (greedy : Bool) : (operand.repeated times greedy).Shows P := by
  have htimes : P (.symbol times.sign) := hown _ (by cases times <;> decide)
  have hlazy : (lazyMark greedy).Shows P := by
    cases greedy
    · exact shows_symbol (hown _ (by decide))
    · exact shows_nothing
  refine shows_beside fun l hl => ?_
  simp only [List.mem_cons, List.not_mem_nil, or_false] at hl
  rcases hl with rfl | rfl | rfl
  · exact h
  · exact shows_symbol htimes
  · exact hlazy

theorem shows_negated {operand : Layout} (h : operand.Shows P) : operand.negated.Shows P := by
  refine shows_beside fun l hl => ?_
  simp only [List.mem_cons, List.not_mem_nil, or_false] at hl
  rcases hl with rfl | rfl
  · exact shows_symbol (hown _ (by decide))
  · exact h

theorem shows_range {first last : Layout} (hf : first.Shows P) (hl : last.Shows P) :
    (Layout.range first last).Shows P := by
  refine shows_beside fun l h => ?_
  simp only [List.mem_cons, List.not_mem_nil, or_false] at h
  rcases h with rfl | rfl | rfl
  · exact hf
  · exact shows_string (hown _ (by decide))
  · exact hl

theorem shows_charset {text : String} (h : P (.string text)) : (Layout.charset text).Shows P := by
  refine shows_beside fun l hl => ?_
  simp only [List.mem_cons, List.not_mem_nil, or_false] at hl
  rcases hl with rfl | rfl | rfl
  · exact shows_symbol (hown _ (by decide))
  · exact shows_string h
  · exact shows_symbol (hown _ (by decide))

end Own

theorem mem_sequence_of_item {items : List Layout} {limit : Int} {l : Layout} {mark : Marker}
    (hl : l ∈ items) (h : mark ∈ l.markers) : mark ∈ (Layout.sequence items limit).markers := by
  rw [markers, pieces_eq_map]
  -- what is no item has no marks
  have hi : l.isItem = true := by
    cases l with
    | nothing => exact absurd h List.not_mem_nil
    | _ => rfl
  exact mem_writeSequence_of_piece limit
    (List.mem_map_of_mem (f := piece) (List.mem_filter.mpr ⟨hl, hi⟩)) h

theorem mem_choice_of_alternative {alternatives : List Layout} {brackets : Bool} {l : Layout}
    {mark : Marker} (hl : l ∈ alternatives) (h : mark ∈ l.markers) :
    mark ∈ (Layout.choice alternatives brackets).markers := by
  rw [markers, markersOf_eq_map]
  exact mem_writeChoice_of_alternative brackets (List.mem_map_of_mem hl) h

end Layout

/-! ## 2. Bodies -/

section Bodies

variable {v : View} {mode : Mode}

mutual

/-- **A body shows marks of its own and the marks of its leaves**, and no others. -/
theorem shows_layout {P : Marker → Prop} (hown : ∀ mark ∈ Layout.ownMarks, P mark) :
    (e : Expr) → (depth : Nat) →
    (∀ leaf ∈ e.leaves, ∀ mark, v.mark? mode leaf = some mark → P mark) →
    (e.layout v mode depth).Shows P
  | .sequence items, depth, h => by
    rw [Expr.layout]
    exact Layout.shows_sequence hown _ (shows_layoutAll hown items depth h)
  | .choice alternatives, depth, h => by
    rw [Expr.layout]
    exact Layout.shows_choice hown _ (shows_layoutAll hown alternatives (depth + 1) h)
  | .tokenSet members, depth, h => by
    rw [Expr.layout]
    exact Layout.shows_choice hown _ (shows_layoutAll hown members (depth + 1) h)
  | .repeated operand times greedy, depth, h => by
    rw [Expr.layout]
    exact Layout.shows_repeated hown (shows_layout hown operand depth h) times greedy
  | .negated operand, depth, h => by
    rw [Expr.layout]
    exact Layout.shows_negated hown (shows_layout hown operand depth h)
  | .range first last, depth, h => by
    rw [Expr.layout]
    exact Layout.shows_range hown
      (shows_layout hown first depth fun leaf hl => h leaf (List.mem_append_left _ hl))
      (shows_layout hown last depth fun leaf hl => h leaf (List.mem_append_right _ hl))
  | .reference name, _, h => by
    rw [Expr.layout]
    exact Layout.shows_identifier (h _ List.mem_cons_self _ rfl)
  | .literal text, _, h => by
    have hmark := h _ List.mem_cons_self
    rw [Expr.layout, View.literal_eq]
    unfold View.mark? at hmark
    cases hshown : v.literals.shown? mode text with
    | none =>
      simp only [hshown] at hmark
      exact Layout.shows_string (hmark _ rfl)
    | some token =>
      simp only [hshown] at hmark
      exact Layout.shows_identifier (hmark _ rfl)
  | .charset text, _, h => by
    rw [Expr.layout]
    exact Layout.shows_charset hown (h _ List.mem_cons_self _ rfl)
  | .wildcard, _, _ => by
    rw [Expr.layout]
    exact Layout.shows_symbol (hown _ (by decide))
  | .predicate _, _, _ => by
    rw [Expr.layout]
    exact Layout.shows_nothing
  | .action _, _, _ => by
    rw [Expr.layout]
    exact Layout.shows_nothing
  | .foreign, _, _ => by
    rw [Expr.layout]
    exact Layout.shows_nothing

theorem shows_layoutAll {P : Marker → Prop} (hown : ∀ mark ∈ Layout.ownMarks, P mark) :
    (es : List Expr) → (depth : Nat) →
    (∀ leaf ∈ Expr.leavesAll es, ∀ mark, v.mark? mode leaf = some mark → P mark) →
    ∀ l ∈ Expr.layoutAll v mode depth es, l.Shows P
  | [], _, _ => nofun
  | e :: es, depth, h => by
    rw [Expr.layoutAll]
    exact List.forall_mem_cons.mpr
      ⟨shows_layout hown e depth fun leaf hl => h leaf (List.mem_append_left _ hl),
        shows_layoutAll hown es depth fun leaf hl => h leaf (List.mem_append_right _ hl)⟩

end

mutual

/-- **A body shows the mark of every leaf.** -/
theorem leaf_mem_layout {leaf : Expr} {mark : Marker} (hmark : v.mark? mode leaf = some mark) :
    (e : Expr) → (depth : Nat) → leaf ∈ e.leaves → mark ∈ (e.layout v mode depth).markers
  | .sequence items, depth, h => by
    obtain ⟨l, hl, hm⟩ := leaf_mem_layoutAll hmark items depth h
    rw [Expr.layout]
    exact Layout.mem_sequence_of_item hl hm
  | .choice alternatives, depth, h => by
    obtain ⟨l, hl, hm⟩ := leaf_mem_layoutAll hmark alternatives (depth + 1) h
    rw [Expr.layout]
    exact Layout.mem_choice_of_alternative hl hm
  | .tokenSet members, depth, h => by
    obtain ⟨l, hl, hm⟩ := leaf_mem_layoutAll hmark members (depth + 1) h
    rw [Expr.layout]
    exact Layout.mem_choice_of_alternative hl hm
  | .repeated operand times greedy, depth, h => by
    rw [Expr.layout]
    exact Layout.mem_beside.mpr ⟨_, List.mem_cons_self, leaf_mem_layout hmark operand depth h⟩
  | .negated operand, depth, h => by
    rw [Expr.layout]
    exact Layout.mem_beside.mpr ⟨_, List.mem_cons_of_mem _ List.mem_cons_self,
      leaf_mem_layout hmark operand depth h⟩
  | .range first last, depth, h => by
    rw [Expr.layout]
    rcases List.mem_append.mp h with h | h
    · exact Layout.mem_beside.mpr ⟨_, List.mem_cons_self, leaf_mem_layout hmark first depth h⟩
    · exact Layout.mem_beside.mpr ⟨_, List.mem_cons_of_mem _ (List.mem_cons_of_mem _
        List.mem_cons_self), leaf_mem_layout hmark last depth h⟩
  | .reference name, _, h => by
    rw [List.mem_singleton.mp h] at hmark
    cases hmark
    exact List.mem_cons_self
  | .literal text, _, h => by
    rw [List.mem_singleton.mp h] at hmark
    unfold View.mark? at hmark
    rw [Expr.layout, View.literal_eq]
    cases hshown : v.literals.shown? mode text with
    | none =>
      simp only [hshown] at hmark
      cases hmark
      exact List.mem_cons_self
    | some token =>
      simp only [hshown] at hmark
      cases hmark
      exact List.mem_cons_self
  | .charset text, _, h => by
    rw [List.mem_singleton.mp h] at hmark
    cases hmark
    exact Layout.mem_beside.mpr ⟨.string text, List.mem_cons_of_mem _ List.mem_cons_self,
      List.mem_cons_self⟩
  | .wildcard, _, h => by
    rw [List.mem_singleton.mp h] at hmark
    cases hmark
  | .predicate _, _, h => by
    rw [List.mem_singleton.mp h] at hmark
    cases hmark
  | .action _, _, h => by
    rw [List.mem_singleton.mp h] at hmark
    cases hmark
  | .foreign, _, h => by
    rw [List.mem_singleton.mp h] at hmark
    cases hmark

theorem leaf_mem_layoutAll {leaf : Expr} {mark : Marker}
    (hmark : v.mark? mode leaf = some mark) : (es : List Expr) → (depth : Nat) →
    leaf ∈ Expr.leavesAll es → ∃ l ∈ Expr.layoutAll v mode depth es, mark ∈ l.markers
  | [], _, h => absurd h List.not_mem_nil
  | e :: es, depth, h => by
    rw [Expr.layoutAll]
    rcases List.mem_append.mp h with h | h
    · exact ⟨_, List.mem_cons_self, leaf_mem_layout hmark e depth h⟩
    · obtain ⟨l, hl, hm⟩ := leaf_mem_layoutAll hmark es depth h
      exact ⟨l, List.mem_cons_of_mem _ hl, hm⟩

end

end Bodies

end GrammarManual
