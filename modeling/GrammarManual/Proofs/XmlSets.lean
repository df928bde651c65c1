import GrammarManual.Proofs.Sections

/-!
# Proofs/XmlSets: the sets of an XML document

The sections of a script are abstract: they say where its strokes put an item. In an XML document
they are the sets.

* `XmlDraft.Grouped` -- a document under way holds its items as some sections say; every stroke
  that succeeds preserves it;
* `performSteps_preserves` -- what every stroke preserves holds of a whole performance;
* **`xml_sets_hold_sections`** -- a finished XML document holds every item once, in order, in a set
  of its section or by itself.
-/

namespace GrammarManual

/-! ## 1. Parts -/

/-- The items of a child of the root. -/
def XmlPart.numbers : XmlPart → List Nat
  | .item number => [number]
  | .set _ numbers => numbers

/-- A child of the root holds an item of a section; what is in no section stands by itself. -/
def XmlPart.Holds (number : Nat) (name? : Option String) : XmlPart → Prop
  | .item n => name? = none ∧ n = number
  | .set e numbers => number ∈ numbers ∧ ∃ name children, name? = some name ∧
      e = .branch "set" [("name", name)] children

/-- A document under way, begun when there were `base` items, is grouped as some strokes say. -/
structure XmlDraft.Grouped (d : XmlDraft) (base : Nat) (g : Grouping) : Prop where
  count : d.items.length = base + g.items.length
  /-- The items of the parts, from first to last: each once. -/
  numbers : d.parts.flatMap XmlPart.numbers = List.range' base g.items.length
  held : ∀ k name?, g.items[k]? = some name? → ∃ part ∈ d.parts, part.Holds (base + k) name?
  /-- What takes new items: the root, or the last set with items in it or behind it. -/
  container : (d.container = none ∧ g.current = none) ∨
    ∃ before name children numbers after,
      d.parts = before ++ .set (.branch "set" [("name", name)] children) numbers :: after ∧
      after.flatMap XmlPart.numbers = [] ∧ d.container = some before.length ∧
      g.current = some name

/-! ## 2. Strokes -/

namespace XmlDraft

variable {d : XmlDraft} {base : Nat} {g : Grouping}

/-- A set without items that nothing is put into. -/
theorem Grouped.addSet (h : d.Grouped base g) (e : XmlElement) : (d.addSet e).Grouped base g := by
  refine ⟨h.count, ?_, fun k name? hk => ?_, ?_⟩
  · rw [XmlDraft.addSet, List.flatMap_append, h.numbers]
    exact List.append_nil _
  · obtain ⟨part, hpart, hholds⟩ := h.held k name? hk
    exact ⟨part, List.mem_append_left _ hpart, hholds⟩
  · rcases h.container with hroot | ⟨before, name, children, numbers, after, hparts, hafter, hd, hg⟩
    · exact .inl hroot
    · refine .inr ⟨before, name, children, numbers, after ++ [.set e []], ?_, ?_, hd, hg⟩
      · rw [XmlDraft.addSet, hparts, List.append_assoc]
        rfl
      · rw [List.flatMap_append, hafter]
        rfl

/-- A set with a name takes the items that follow. -/
theorem Grouped.openSet (h : d.Grouped base g) (name : String) (children : List XmlElement) :
    ({ d.addSet (.branch "set" [("name", name)] children) with
      container := some d.parts.length } : XmlDraft).Grouped base
        { g with current := some name } := by
  have hadd := h.addSet (.branch "set" [("name", name)] children)
  exact ⟨hadd.count, hadd.numbers, hadd.held,
    .inr ⟨d.parts, name, children, [], [], rfl, rfl, rfl, rfl⟩⟩

theorem Grouped.openSection (h : d.Grouped base g) {name : String} {blurb : Option String}
    {d' : XmlDraft} (hstep : d.step (.openSection name blurb) = (d', none)) :
    d'.Grouped base { g with current := some name } := by
  rw [step] at hstep
  split at hstep
  · obtain rfl : _ = d' := congrArg Prod.fst hstep
    cases blurb with
    | none => exact h.openSet name []
    | some text => exact h.openSet name _
  · cases hstep

theorem modify_middle {α : Type} (before : List α) (a : α) (after : List α) (f : α → α) :
    (before ++ a :: after).modify before.length f = before ++ f a :: after := by
  induction before with
  | nil => rfl
  | cons b before ih => rw [List.cons_append, List.length_cons, List.modify_succ_cons, ih,
      List.cons_append]

/-- The last item of a list with one more, or one of those before. -/
theorem getElem?_snoc {α : Type} {as : List α} {a b : α} {k : Nat}
    (h : (as ++ [a])[k]? = some b) : as[k]? = some b ∨ (k = as.length ∧ a = b) := by
  rcases Nat.lt_trichotomy k as.length with hk | rfl | hk
  · rw [List.getElem?_append_left hk] at h
    exact .inl h
  · rw [List.getElem?_concat_length] at h
    exact .inr ⟨rfl, Option.some.inj h⟩
  · rw [List.getElem?_eq_none (by rw [List.length_append, List.length_singleton]; omega)] at h
    cases h

theorem Grouped.addItem (h : d.Grouped base g) (helper : Bool) :
    (d.step (.addItem helper)).1.Grouped base { g with items := g.items ++ [g.current] } := by
  have hnew : List.range' base (g.items ++ [g.current]).length =
      List.range' base g.items.length ++ [d.items.length] := by
    rw [List.length_append, List.length_singleton, List.range'_1_concat, h.count]
  have hcount : ∀ item : XmlItem, (d.items ++ [item]).length =
      base + (g.items ++ [g.current]).length := by
    intro item
    rw [List.length_append, List.length_append, List.length_singleton, List.length_singleton,
      h.count, Nat.add_assoc]
  rw [step]
  rcases h.container with
    ⟨hd, hg⟩ | ⟨before, name, children, numbers, after, hparts, hafter, hd, hg⟩
  · rw [hd]
    refine ⟨hcount _, ?_, fun k name? hk => ?_, .inl ⟨rfl, hg⟩⟩
    · rw [hnew, ← h.numbers, List.flatMap_append]
      rfl
    · rcases getElem?_snoc hk with hk | ⟨rfl, rfl⟩
      · obtain ⟨part, hpart, hholds⟩ := h.held k name? hk
        exact ⟨part, List.mem_append_left _ hpart, hholds⟩
      · exact ⟨.item d.items.length, List.mem_append_right _ List.mem_cons_self, hg, h.count⟩
  · rw [hd]
    have hparts' : d.parts.modify before.length (XmlPart.addItem d.items.length) =
        before ++ .set (.branch "set" [("name", name)] children) (numbers ++ [d.items.length]) ::
          after := by
      rw [hparts, modify_middle]
      rfl
    refine ⟨hcount _, ?_, fun k name? hk => ?_, .inr ⟨before, name, children, _, after, hparts',
      hafter, rfl, hg⟩⟩
    · have hnumbers := h.numbers
      rw [hparts, List.flatMap_append, List.flatMap_cons, hafter] at hnumbers
      rw [hnew, ← hnumbers]
      show (d.parts.modify _ _).flatMap _ = _
      rw [hparts', List.flatMap_append, List.flatMap_cons, hafter]
      simp [XmlPart.numbers]
    · show ∃ part ∈ d.parts.modify _ _, _
      rw [hparts']
      rcases getElem?_snoc hk with hk | ⟨rfl, rfl⟩
      · obtain ⟨part, hpart, hholds⟩ := h.held k name? hk
        rw [hparts] at hpart
        rcases List.mem_append.mp hpart with hpart | hpart
        · exact ⟨part, List.mem_append_left _ hpart, hholds⟩
        · rcases List.mem_cons.mp hpart with rfl | hpart
          · refine ⟨_, List.mem_append_right _ List.mem_cons_self, ?_, hholds.2⟩
            exact List.mem_append_left _ hholds.1
          · exact ⟨part, List.mem_append_right _ (List.mem_cons_of_mem _ hpart), hholds⟩
      · refine ⟨_, List.mem_append_right _ List.mem_cons_self, ?_, name, children, hg, rfl⟩
        rw [← h.count]
        exact List.mem_append_right _ List.mem_cons_self

/-- **A stroke groups an XML document as it groups the items of its script.** -/
theorem Grouped.step {d' : XmlDraft} {s : Stroke} (h : d.Grouped base g)
    (hstep : d.step s = (d', none)) : ∃ base, d'.Grouped base (s.onGrouping g) := by
  cases s with
  | begin =>
    cases hstep
    exact ⟨d.items.length, rfl, rfl, nofun, .inl ⟨rfl, rfl⟩⟩
  | preamble text =>
    cases congrArg Prod.fst hstep
    exact ⟨base, h.addSet _⟩
  | openSection name blurb => exact ⟨base, h.openSection hstep⟩
  | leaveSection =>
    cases hstep
    exact ⟨base, h.count, h.numbers, h.held, .inl ⟨rfl, rfl⟩⟩
  | addItem helper =>
    have hadd := h.addItem helper
    rw [hstep] at hadd
    exact ⟨base, hadd⟩
  | write number mark =>
    refine ⟨base, ?_⟩
    rw [XmlDraft.step] at hstep
    split at hstep
    · cases hstep
      exact h
    · cases congrArg Prod.fst hstep
      exact ⟨List.length_set.trans h.count, h.numbers, h.held, h.container⟩

/-- Every step of an XML document adds as many items as the sheets get. -/
theorem length_items_step (d : XmlDraft) (s : Stroke) {sheets : List Sheet}
    (h : d.items.length = sheets.length) :
    (d.step s).1.items.length = (s.onSheets sheets).length := by
  cases s with
  | begin | preamble | leaveSection => exact h
  | openSection name blurb =>
    rw [XmlDraft.step]
    split <;> exact h
  | addItem helper =>
    have hlength : ∀ item : XmlItem, (d.items ++ [item]).length =
        (Stroke.onSheets sheets (.addItem helper)).length := by
      intro item
      rw [Stroke.onSheets, List.length_append, List.length_append, List.length_singleton,
        List.length_singleton, h]
    rw [XmlDraft.step]
    cases d.container with
    | none => exact hlength _
    | some i => exact hlength _
  | write number mark =>
    rw [XmlDraft.step, Stroke.onSheets, List.length_modify]
    split
    · exact h
    · exact List.length_set.trans h

end XmlDraft

/-! ## 3. Performances -/

/-- A stroke on the first document of an easel keeps its numbers. -/
theorem Stroke.shift_zero (s : Stroke) : s.shift 0 = s := by
  cases s with
  | write item mark => rw [shift, Nat.zero_add]
  | _ => rfl

/-- What every stroke that succeeds preserves holds once all steps have been drawn. -/
theorem performSteps_preserves {e : Easel} {base : Nat} {P : e.State → List Stroke → Prop}
    (hstep : ∀ state state' strokes s, P state strokes →
      e.step state (s.shift base) = (state', none) → P state' (strokes ++ [s]))
    {steps : List ManualStep} {state state' : e.State} {log : List Message}
    {strokes : List Stroke} (hstart : P state strokes)
    (h : Script.performSteps e base steps state = (state', log, none)) :
    P state' (strokes ++ strokesOf steps) := by
  induction steps generalizing state log strokes with
  | nil =>
    cases h
    rw [strokesOf, List.filterMap_nil, List.append_nil]
    exact hstart
  | cons step steps ih =>
    cases step with
    | say m =>
      rcases hr : Script.performSteps e base steps state with ⟨state₁, log', err⟩
      rw [Script.performSteps, hr] at h
      cases h
      exact ih hstart hr
    | draw s =>
      rw [Script.performSteps] at h
      cases hs : e.step state (s.shift base) with
      | mk state₁ err =>
        rw [hs] at h
        cases err with
        | some err => cases h
        | none =>
          have hrest := ih (hstep state state₁ strokes s hstart hs) h
          rw [List.append_assoc] at hrest
          exact hrest

/-- **The sets of an XML document hold its items as the sections of the script say**: every item
    once, in order, in a set of its section or by itself. -/
theorem xml_sets_hold_sections [PatternLanguage] {rules : RuleSet} {settings : Settings}
    {files : FileTree}
    {document : String}
    (h : ((rules.script settings files).perform xmlEasel xmlEasel.fresh).2.result =
      .ok document) :
    ∃ d : XmlDraft, document = d.tree.document ∧
      d.parts.flatMap XmlPart.numbers =
        List.range (rules.script settings files).sheets.length ∧
      ∀ k name?, (rules.script settings files).sections[k]? = some name? →
        ∃ part ∈ d.parts, part.Holds k name? := by
  obtain ⟨_, _, -, -, -, -, hgroups⟩ := script_groups (Script.perform_ok h).1
  unfold Script.perform at h
  rcases hp : Script.performSteps xmlEasel (xmlEasel.itemCount xmlEasel.fresh)
    (rules.script settings files).steps xmlEasel.fresh with ⟨d, log, err⟩
  rw [hp] at h
  cases err with
  | some err => cases h
  | none =>
    cases hstop : (rules.script settings files).stop with
    | some stop =>
      rw [hstop] at h
      cases h
    | none =>
      rw [hstop] at h
      let Inv (d : XmlDraft) (strokes : List Stroke) : Prop :=
        (∃ base, d.Grouped base (strokes.foldl Stroke.onGrouping {})) ∧
          d.items.length = (strokes.foldl Stroke.onSheets []).length
      have hstep : ∀ (d d' : XmlDraft) (strokes : List Stroke) (s : Stroke), Inv d strokes →
          xmlEasel.step d (s.shift 0) = (d', none) → Inv d' (strokes ++ [s]) := by
        rintro d d' strokes s ⟨⟨base, hd⟩, hsheets⟩ hs
        rw [s.shift_zero] at hs
        have hlength := d.length_items_step s hsheets
        have hs' : d.step s = (d', none) := hs
        rw [hs'] at hlength
        refine ⟨?_, ?_⟩
        · rw [List.foldl_append]
          exact hd.step hs
        · rw [List.foldl_append]
          exact hlength
      have hfresh : Inv {} [] := ⟨⟨0, rfl, rfl, nofun, .inl ⟨rfl, rfl⟩⟩, rfl⟩
      obtain ⟨⟨base, hd⟩, hsheets⟩ := performSteps_preserves (P := Inv) hstep hfresh hp
      have hcount : d.items.length = base + (rules.script settings files).sections.length :=
        hd.count
      have hall : d.items.length = (rules.script settings files).sheets.length := hsheets
      have hbase : base = 0 := by
        have hsame := hgroups.count
        omega
      subst hbase
      refine ⟨d, (Except.ok.inj h).symm, ?_, fun k name? hk => ?_⟩
      · rw [hd.numbers, ← hgroups.count, List.range_eq_range']
        rfl
      · have hheld := hd.held k name? hk
        rwa [Nat.zero_add] at hheld

end GrammarManual
