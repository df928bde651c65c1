import GrammarManual.Proofs.Sheets
import GrammarManual.Proofs.Shown

/-!
# Proofs/Usages: the usages blocks of a manual

Usages are recorded while bodies are walked, bound to items when these are written, and flushed at
the end. What comes out can be checked on the sheets alone:

* `Shows` -- some item of one name shows another name in its description;
* `UsagesAgree` -- every usages block lists exactly the items that show the name it belongs to;
* **`usages_agree`** -- the sheets of every finished manual have this property.
-/

namespace GrammarManual

/-! ## 1. What sheets say about each other -/

/-- Some item of the name `referrer` shows the identifier `name` in its description. -/
def Shows (sheets : List Sheet) (referrer name : String) : Prop :=
  ∃ sheet ∈ sheets, sheet.name? = some referrer ∧ .identifier name ∈ sheet.description

/-- **The usages blocks of some sheets agree with their descriptions.** -/
structure UsagesAgree (declared : List String) (sheets : List Sheet) : Prop where
  /-- Every item has a name. -/
  named : ∀ sheet ∈ sheets, ∃ x, sheet.name? = some x
  /-- The first item of a name has one block, with the other items that show the name, sorted by
      code point without repetition; it has none if there are no such items. -/
  first : ∀ (i : Nat) (sheet : Sheet) (x : String), sheets[i]? = some sheet →
    sheet.name? = some x →
    (∀ j < i, ∀ other : Sheet, sheets[j]? = some other → other.name? ≠ some x) →
    ∃ names, sheet.usages = (if names = [] then [] else [names]) ∧
      names.Pairwise (· < ·) ∧ ∀ r, r ∈ names ↔ r ≠ x ∧ Shows sheets r x
  /-- A later item of the same name has no block. -/
  later : ∀ (i j : Nat) (sheet other : Sheet) (x : String), j < i → sheets[j]? = some other →
    other.name? = some x → sheets[i]? = some sheet → sheet.name? = some x → sheet.usages = []
  /-- Every name in a block has an item. -/
  listed : ∀ sheet ∈ sheets, ∀ names ∈ sheet.usages, ∀ r ∈ names,
    ∃ other ∈ sheets, other.name? = some r
  /-- Every identifier that names a rule has an item. -/
  shown : ∀ sheet ∈ sheets, ∀ x ∈ declared, .identifier x ∈ sheet.description →
    ∃ other ∈ sheets, other.name? = some x

namespace Script.Source

/-! ## 2. The items of a survey -/

section Survey

variable {s : Source} {lexerItems parserItems : List Item} {m : UsageMap Nat}

/-- The items of a survey are the rules that were walked. -/
theorem Survey.mem_items (h : Survey s lexerItems parserItems m) {i : Item} :
    i ∈ lexerItems ++ parserItems ↔ ∃ mode r, s.Walked m mode r ∧ i = s.itemOf mode r := by
  rw [h.lexer, h.parser, List.mem_append, List.mem_map, List.mem_map]
  constructor
  · rintro (⟨r, hr, rfl⟩ | ⟨r, hr, rfl⟩)
    · obtain ⟨hr, hu⟩ := List.mem_filter.mp hr
      exact ⟨.lexer, r, ⟨hr, fun _ => hu⟩, rfl⟩
    · exact ⟨.parser, r, walked_of_mem_parserRules hr, rfl⟩
  · rintro ⟨_ | _, r, ⟨hr, hu⟩, rfl⟩
    · exact .inl ⟨r, List.mem_filter.mpr ⟨hr, hu rfl⟩, rfl⟩
    · exact .inr ⟨r, hr, rfl⟩

theorem getElem?_finalSheets (items : List Item) (i : Nat) :
    (s.finalSheets items m)[i]? =
      items[i]?.map fun it => s.sheetOf it ++ ((bound m 0 items).flushedAt i).map .usages := by
  unfold finalSheets
  rw [List.getElem?_mapIdx, List.getElem?_map, Option.map_map]
  rfl

/-- What is read from a sheet but its usages can be read from its item. -/
theorem map_finalSheets {α : Type} {f : Sheet → α} {g : Item → α}
    (hf : ∀ it (blocks : List (List String)), f (s.sheetOf it ++ blocks.map .usages) = g it)
    (items : List Item) : (s.finalSheets items m).map f = items.map g := by
  refine List.ext_getElem? fun i => ?_
  rw [List.getElem?_map, getElem?_finalSheets, List.getElem?_map, Option.map_map]
  cases items[i]? with
  | none => rfl
  | some it => exact congrArg some (hf it _)

theorem mem_finalSheets {items : List Item} {sheet : Sheet} :
    sheet ∈ s.finalSheets items m ↔ ∃ i it, items[i]? = some it ∧
      sheet = s.sheetOf it ++ ((bound m 0 items).flushedAt i).map .usages := by
  rw [List.mem_iff_getElem?]
  constructor
  · rintro ⟨i, hi⟩
    rw [getElem?_finalSheets, Option.map_eq_some_iff] at hi
    obtain ⟨it, hit, rfl⟩ := hi
    exact ⟨i, it, hit, rfl⟩
  · rintro ⟨i, it, hit, rfl⟩
    exact ⟨i, by rw [getElem?_finalSheets, hit]; rfl⟩

/-- The final sheets have the names of the items. -/
theorem exists_name_iff {items : List Item} {x : String} :
    (∃ sheet ∈ s.finalSheets items m, sheet.name? = some x) ↔ ∃ it ∈ items, it.rule.name = x := by
  have hnames := map_finalSheets (s := s) (m := m) (s.name?_final) items
  have hmem : (∃ sheet ∈ s.finalSheets items m, sheet.name? = some x) ↔
      some x ∈ (s.finalSheets items m).map Sheet.name? := List.mem_map.symm
  rw [hmem, hnames]
  simp

theorem Survey.shows_iff (h : Survey s lexerItems parserItems m) {r x : String} :
    Shows (s.finalSheets (lexerItems ++ parserItems) m) r x ↔
      ∃ mode q, s.Walked m mode q ∧ q.name = r ∧ s.rules.Refers mode q x := by
  unfold Shows
  constructor
  · rintro ⟨sheet, hs, hr, hx⟩
    obtain ⟨i, it, hit, rfl⟩ := mem_finalSheets.mp hs
    rw [name?_final] at hr
    rw [description_final, identifier_mem_itemText] at hx
    obtain ⟨mode, q, hq, rfl⟩ := h.mem_items.mp (List.mem_of_getElem? hit)
    exact ⟨mode, q, hq, Option.some.inj hr, (s.identifier_mem_iff_refers mode q x).mp hx⟩
  · rintro ⟨mode, q, hq, rfl, hx⟩
    obtain ⟨i, hi⟩ := List.mem_iff_getElem?.mp (h.mem_items.mpr ⟨mode, q, hq, rfl⟩)
    refine ⟨_, mem_finalSheets.mpr ⟨i, _, hi, rfl⟩, name?_final s _ _, ?_⟩
    rw [description_final, identifier_mem_itemText]
    exact (s.identifier_mem_iff_refers mode q x).mpr hx

/-- **What was recorded agrees with what is shown.** -/
theorem Survey.mem_referrers_iff (h : Survey s lexerItems parserItems m)
    (hl : s.rules.LiteralsAreNoNames) {r x : String} (hx : x ∈ s.rules.names) :
    r ∈ m.referrers x ↔ r ≠ x ∧ Shows (s.finalSheets (lexerItems ++ parserItems) m) r x := by
  rw [h.referrers, h.shows_iff]
  refine and_congr ne_comm ⟨?_, ?_⟩
  · rintro ⟨mode, q, hq, hn, hh⟩
    exact ⟨mode, q, hq, hn, (mem_heard_iff hl hq.1 (h.plain mode q hq) hx).mp hh⟩
  · rintro ⟨mode, q, hq, hn, hr⟩
    exact ⟨mode, q, hq, hn, (mem_heard_iff hl hq.1 (h.plain mode q hq) hx).mpr hr⟩

/-- The first item of a name is the one the name is bound to. -/
theorem handle?_first {items : List Item} (hm : ∀ x, m.handle? x = none) (x : String) :
    (bound m 0 items).handle? x = items.findIdx? fun it => it.rule.name = x := by
  rw [handle?_bound, hm]
  simp

/-- Bound names are different if their items are. -/
theorem name_of_handle? {items : List Item} (hm : ∀ x, m.handle? x = none) {x : String} {i : Nat}
    (h : (bound m 0 items).handle? x = some i) :
    ∃ it, items[i]? = some it ∧ it.rule.name = x := by
  rw [handle?_first hm] at h
  obtain ⟨hi, hx, -⟩ := List.findIdx?_eq_some_iff_getElem.mp h
  exact ⟨items[i], List.getElem?_eq_getElem hi, by simpa using hx⟩

theorem flushedAt_first {items : List Item} (hs : m.Sound) (hm : ∀ x, m.handle? x = none) {i : Nat}
    {it : Item} (hit : items[i]? = some it)
    (hfirst : ∀ j < i, ∀ other, items[j]? = some other → other.rule.name ≠ it.rule.name) :
    (bound m 0 items).flushedAt i =
      if m.referrers it.rule.name = [] then [] else [m.referrers it.rule.name] := by
  obtain ⟨hi, rfl⟩ := List.getElem?_eq_some_iff.mp hit
  have hbound : (bound m 0 items).handle? items[i].rule.name = some i := by
    rw [handle?_first hm]
    refine List.findIdx?_eq_some_iff_getElem.mpr ⟨hi, by simp, fun j hj => ?_⟩
    have hne := hfirst j hj _ (List.getElem?_eq_getElem (by omega))
    simpa using hne
  have hone : ∀ y, (bound m 0 items).handle? y = some i → y = items[i].rule.name := by
    intro y hy
    obtain ⟨it, hit', rfl⟩ := name_of_handle? hm hy
    rw [hit] at hit'
    rw [Option.some.inj hit']
  rw [UsageMap.flushedAt_bound (sound_bound hs 0 items) hbound hone, referrers_bound]

theorem flushedAt_later {items : List Item} (hs : m.Sound) (hm : ∀ x, m.handle? x = none)
    {i j : Nat} {it other : Item} (hji : j < i) (hother : items[j]? = some other)
    (hit : items[i]? = some it) (hname : other.rule.name = it.rule.name) :
    (bound m 0 items).flushedAt i = [] := by
  refine UsageMap.flushedAt_unbound (sound_bound hs 0 items) fun y hy => ?_
  obtain ⟨it', hit', rfl⟩ := name_of_handle? hm hy
  rw [hit] at hit'
  obtain rfl := Option.some.inj hit'
  rw [handle?_first hm] at hy
  obtain ⟨hi, -, hmin⟩ := List.findIdx?_eq_some_iff_getElem.mp hy
  obtain ⟨hj, rfl⟩ := List.getElem?_eq_some_iff.mp hother
  have hne := hmin j hji
  simp [hname] at hne

/-- The first item of a name has one block, with what was recorded for the name, or none if nothing
    was. -/
theorem Survey.usages_first (h : Survey s lexerItems parserItems m) {i : Nat} {it : Item}
    (hit : (lexerItems ++ parserItems)[i]? = some it)
    (hfirst : ∀ j < i, ∀ other, (lexerItems ++ parserItems)[j]? = some other →
      other.rule.name ≠ it.rule.name) :
    Sheet.usages (s.sheetOf it ++
        ((bound m 0 (lexerItems ++ parserItems)).flushedAt i).map .usages) =
      if m.referrers it.rule.name = [] then [] else [m.referrers it.rule.name] := by
  rw [usages_final]
  exact flushedAt_first h.sound h.unbound hit hfirst

/-- Every block holds what was recorded for the name of a rule. -/
theorem Survey.referrers_of_mem_usages (h : Survey s lexerItems parserItems m) {sheet : Sheet}
    (hsheet : sheet ∈ s.finalSheets (lexerItems ++ parserItems) m) {names : List String}
    (hnames : names ∈ sheet.usages) : ∃ x ∈ s.rules.names, names = m.referrers x := by
  obtain ⟨i, it, hit, rfl⟩ := mem_finalSheets.mp hsheet
  obtain ⟨mode, r, hr, rfl⟩ := h.mem_items.mp (List.mem_of_getElem? hit)
  by_cases hfirst : ∀ j < i, ∀ other, (lexerItems ++ parserItems)[j]? = some other →
      other.rule.name ≠ r.name
  · rw [h.usages_first hit hfirst] at hnames
    split at hnames
    · cases hnames
    · exact ⟨r.name, RuleSet.mem_names mode hr.1, List.mem_singleton.mp hnames⟩
  · push Not at hfirst
    obtain ⟨j, hj, other, hother, hname⟩ := hfirst
    rw [usages_final, flushedAt_later h.sound h.unbound hj hother hit hname] at hnames
    cases hnames

/-- Whatever a documented rule refers to is documented. -/
theorem Survey.exists_item_of_refers (h : Survey s lexerItems parserItems m)
    (hl : s.rules.LiteralsAreNoNames) {mode : Mode} {r : Rule} (hr : s.Walked m mode r)
    {x : String} (hx : x ∈ s.rules.names) (hrefers : s.rules.Refers mode r x) :
    ∃ it ∈ lexerItems ++ parserItems, it.rule.name = x := by
  by_cases hself : r.name = x
  · exact ⟨_, h.mem_items.mpr ⟨mode, r, hr, rfl⟩, hself⟩
  · rcases List.mem_append.mp hx with hlexer | hparser
    · obtain ⟨q, hq, rfl⟩ := List.mem_map.mp hlexer
      -- a lexer rule that another rule refers to is used
      have hused : r.name ∈ m.referrers q.name :=
        (h.mem_referrers_iff hl hx).mpr ⟨hself, h.shows_iff.mpr ⟨mode, r, hr, rfl, hrefers⟩⟩
      have hwalked : s.Walked m .lexer q := ⟨hq, fun _ => UsageMap.isUsed_iff.mpr ⟨_, hused⟩⟩
      exact ⟨_, h.mem_items.mpr ⟨.lexer, q, hwalked, rfl⟩, rfl⟩
    · obtain ⟨q, hq, rfl⟩ := List.mem_map.mp hparser
      exact ⟨_, h.mem_items.mpr ⟨.parser, q, walked_of_mem_parserRules hq, rfl⟩, rfl⟩

/-- **The final sheets of a survey agree.** -/
theorem Survey.agree (h : Survey s lexerItems parserItems m) (hl : s.rules.LiteralsAreNoNames) :
    UsagesAgree s.rules.names (s.finalSheets (lexerItems ++ parserItems) m) where
  named := by
    intro sheet hsheet
    obtain ⟨i, it, hit, rfl⟩ := mem_finalSheets.mp hsheet
    exact ⟨_, name?_final s it _⟩
  first := by
    intro i sheet x hi hx hfirst
    rw [getElem?_finalSheets, Option.map_eq_some_iff] at hi
    obtain ⟨it, hit, rfl⟩ := hi
    rw [name?_final] at hx
    obtain rfl := Option.some.inj hx
    have hfirst' : ∀ j < i, ∀ other, (lexerItems ++ parserItems)[j]? = some other →
        other.rule.name ≠ it.rule.name := by
      intro j hj other hother e
      refine hfirst j hj _ (by rw [getElem?_finalSheets, hother]; rfl) ?_
      rw [name?_final, e]
    obtain ⟨mode, r, hr, rfl⟩ := h.mem_items.mp (List.mem_of_getElem? hit)
    exact ⟨m.referrers r.name, h.usages_first hit hfirst', h.sound.sorted _, fun q =>
      h.mem_referrers_iff hl (RuleSet.mem_names mode hr.1)⟩
  later := by
    intro i j sheet other x hji hj hxj hi hx
    rw [getElem?_finalSheets, Option.map_eq_some_iff] at hi hj
    obtain ⟨it, hit, rfl⟩ := hi
    obtain ⟨jt, hjt, rfl⟩ := hj
    rw [name?_final] at hx hxj
    rw [usages_final]
    refine flushedAt_later h.sound h.unbound hji hjt hit ?_
    rw [Option.some.inj hx, Option.some.inj hxj]
  listed := by
    intro sheet hsheet names hnames r hr
    obtain ⟨x, hx, rfl⟩ := h.referrers_of_mem_usages hsheet hnames
    obtain ⟨-, other, hother, hname, -⟩ := (h.mem_referrers_iff hl hx).mp hr
    exact ⟨other, hother, hname⟩
  shown := by
    intro sheet hsheet x hx hshown
    obtain ⟨i, it, hit, rfl⟩ := mem_finalSheets.mp hsheet
    rw [description_final, identifier_mem_itemText] at hshown
    obtain ⟨mode, r, hr, rfl⟩ := h.mem_items.mp (List.mem_of_getElem? hit)
    rw [exists_name_iff]
    exact h.exists_item_of_refers hl hr hx ((s.identifier_mem_iff_refers mode r x).mp hshown)

end Survey

end Script.Source

/-! ## 3. Manuals -/

/-- **The usages of every finished manual agree with its descriptions**, on every easel, and with
    what was recorded while the bodies were walked. -/
theorem usages_agree [PatternLanguage] {rules : RuleSet} (hl : rules.LiteralsAreNoNames)
    {settings : Settings}
    {files : FileTree} {e : Easel} {state : e.State} {document : String}
    (h : ((rules.script settings files).perform e state).2.result = .ok document) :
    UsagesAgree rules.names (rules.script settings files).sheets ∧
      ∃ pattern, Pattern.read settings.pattern = .ok pattern ∧ ∀ x ∈ rules.names, ∀ r,
        r ∈ (Script.Source.recorded ⟨rules, settings, files, pattern⟩).referrers x ↔
          r ≠ x ∧ Shows (rules.script settings files).sheets r x := by
  obtain ⟨hstop, -⟩ := Script.perform_ok h
  obtain ⟨s, rfl, rfl, rfl, hpattern, lexerItems, parserItems, hs, hsheets⟩ :=
    RuleSet.script_sheets hstop
  rw [hsheets]
  exact ⟨hs.agree hl, s.pattern, hpattern, fun x hx r => hs.mem_referrers_iff hl hx⟩

/-- Sums of numbers. One lexer rule refers to nothing but itself. -/
def RuleSet.sums : RuleSet where
  lexerRules :=
    { rules :=
        [{ name := "DIGIT", body := .choice [.sequence [.charset "0-9"]], fragment := true },
          { name := "NUMBER",
            body := .choice [.sequence [.repeated (.reference "DIGIT") .oneOrMore true]] },
          { name := "PLUS", body := .choice [.sequence [.literal "'+'"]] },
          { name := "NEST", body := .choice [.sequence [.literal "'('", .reference "NEST"]] }]
      distinct := by decide }
  parserRules :=
    { rules :=
        [{ name := "sum",
           body := .choice [.sequence [.reference "NUMBER", .repeated
             (.choice [.sequence [.literal "'+'", .reference "NUMBER"]]) .zeroOrMore true]] }]
      distinct := by decide }

theorem RuleSet.sums_literals : RuleSet.sums.LiteralsAreNoNames := by
  intro mode r hr text ht hn
  have htext : text = "'+'" ∨ text = "'('" := by
    cases mode <;>
      simp only [table, sums, List.mem_cons, List.not_mem_nil, or_false] at hr
    · rcases hr with rfl | rfl | rfl | rfl <;>
        simp [Expr.leaves, Expr.leavesAll] at ht <;> simp [ht]
    · subst hr
      simp [Expr.leaves, Expr.leavesAll] at ht
      simp [ht]
  rcases htext with rfl | rfl <;> revert hn <;> decide

theorem RuleSet.sums_finishes : ∃ document,
    ((RuleSet.sums.script {} {}).perform textEasel textEasel.fresh).2.result = .ok document := by
  have hdone : ((RuleSet.sums.script {} {}).perform textEasel textEasel.fresh).2.result.toBool =
      true := by decide +kernel
  rcases h : ((RuleSet.sums.script {} {}).perform textEasel textEasel.fresh).2.result with e | d
  · rw [h] at hdone
    cases hdone
  · exact ⟨d, rfl⟩

theorem usages_agree_sums : ∃ document,
    ((RuleSet.sums.script {} {}).perform textEasel textEasel.fresh).2.result = .ok document ∧
      UsagesAgree RuleSet.sums.names (RuleSet.sums.script {} {}).sheets := by
  obtain ⟨document, h⟩ := RuleSet.sums_finishes
  exact ⟨document, h, (usages_agree RuleSet.sums_literals h).1⟩

end GrammarManual
