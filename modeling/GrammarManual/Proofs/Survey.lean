import GrammarManual.Proofs.Rounds

/-!
# Proofs/Survey: what is known once all rules have been walked

* `RuleSet.Refers` -- a rule refers to a name, by a reference or by a literal that stands for a
  token; `Source.mem_heard_iff` says that this is what its walk records, as long as no literal is
  written like a rule name;
* `Found` -- the invariant of the visits to lexer rules;
* **`Survey`** -- what a run knows before it writes: which rules it documents and who refers to
  whom. `survey_of_walks` obtains it from the two walks over the tables.
-/

namespace GrammarManual

/-! ## 1. References -/

namespace RuleSet

/-- Which token stands for which literal. -/
def literalIndex (g : RuleSet) : LiteralIndex := LiteralIndex.ofRules g.lexerRules.rules

/-- A rule refers to a name: by a reference anywhere in its body or, if it is a parser rule, by a
    literal that stands for the token of that name. -/
def Refers (g : RuleSet) (mode : Mode) (r : Rule) (name : String) : Prop :=
  .reference name ∈ r.body.leaves ∨
    (mode = .parser ∧ ∃ text, .literal text ∈ r.body.leaves ∧
      g.literalIndex.token? text = some name)

/-- No literal is written like the name of a rule. Literals that were read keep their quotes. -/
def LiteralsAreNoNames (g : RuleSet) : Prop :=
  ∀ mode, ∀ r ∈ (g.table mode).rules, ∀ text, .literal text ∈ r.body.leaves → text ∉ g.names

theorem mem_names {g : RuleSet} (mode : Mode) {r : Rule} (h : r ∈ (g.table mode).rules) :
    r.name ∈ g.names := by
  cases mode with
  | lexer => exact List.mem_append.mpr (.inl (List.mem_map_of_mem h))
  | parser => exact List.mem_append.mpr (.inr (List.mem_map_of_mem h))

end RuleSet

theorem RuleTable.eq_of_name {t : RuleTable} {q r : Rule} (hq : q ∈ t.rules) (hr : r ∈ t.rules)
    (h : q.name = r.name) : q = r :=
  List.inj_on_of_nodup_map t.distinct hq hr h

/-- What a walk hears are symbols of leaves. -/
theorem View.exists_leaf_of_mem_heard {v : View} {mode : Mode} {e : Expr} {x : String}
    (h : x ∈ v.heard mode e) : ∃ leaf ∈ e.leaves, v.symbol? mode leaf = some x := by
  obtain ⟨leaf, hleaf, hs⟩ := List.mem_filterMap.mp h
  exact ⟨leaf, (List.takeWhile_prefix _).subset hleaf, hs⟩

/-- A walk over a whole expression hears the symbols of all its leaves. -/
theorem View.mem_heard_of_leaf {v : View} {mode : Mode} {e : Expr} (h : e.isPlain = true)
    {x : String} {leaf : Expr} (hleaf : leaf ∈ e.leaves) (hs : v.symbol? mode leaf = some x) :
    x ∈ v.heard mode e := by
  refine List.mem_filterMap.mpr ⟨leaf, ?_, hs⟩
  rw [List.takeWhile_eq_self_iff.mpr (List.all_eq_true.mp h)]
  exact hleaf

namespace Script.Source

/-- A rule refers to the rules that its walk hears of. -/
theorem refers_of_mem_heard {s : Source} {mode : Mode} {r : Rule} {name : String}
    (hl : s.rules.LiteralsAreNoNames) (hr : r ∈ (s.rules.table mode).rules)
    (hn : name ∈ s.rules.names) (h : name ∈ s.view.heard mode r.body) :
    s.rules.Refers mode r name := by
  obtain ⟨leaf, hleaf, hs⟩ := View.exists_leaf_of_mem_heard h
  cases leaf with
  | reference x =>
    cases hs
    exact .inl hleaf
  | literal text =>
    have hs' : (s.view.literal mode text).2 = name := Option.some.inj hs
    rw [View.literal_eq] at hs'
    cases hshown : s.view.literals.shown? mode text with
    | none =>
      rw [hshown] at hs'
      have htext : text = name := hs'
      rw [← htext] at hn
      exact absurd hn (hl mode r hr text hleaf)
    | some token =>
      rw [hshown] at hs'
      have htoken : token = name := hs'
      obtain ⟨hm, ht⟩ := LiteralIndex.shown?_eq_some.mp hshown
      exact .inr ⟨hm, text, hleaf, by rw [← htoken]; exact ht⟩
  | _ => cases hs

theorem mem_heard_iff {s : Source} {mode : Mode} {r : Rule} {name : String}
    (hl : s.rules.LiteralsAreNoNames) (hr : r ∈ (s.rules.table mode).rules)
    (hp : r.body.isPlain = true) (hn : name ∈ s.rules.names) :
    name ∈ s.view.heard mode r.body ↔ s.rules.Refers mode r name := by
  refine ⟨refers_of_mem_heard hl hr hn, ?_⟩
  rintro (hleaf | ⟨hm, text, hleaf, ht⟩)
  · exact View.mem_heard_of_leaf hp hleaf rfl
  · refine View.mem_heard_of_leaf hp hleaf (congrArg some ?_)
    have hshown : s.view.literals.shown? mode text = some name :=
      LiteralIndex.shown?_eq_some.mpr ⟨hm, ht⟩
    rw [View.literal_eq, hshown]

/-! ## 2. Parser rules -/

/-- The walk over the parser rules: every rule is laid out, and its symbols are recorded. -/
theorem documentParser_ok {s : Source} {rs : List Rule} {m m' : UsageMap Nat}
    {items : List Item} (h : runFrom (s.documentParser rs) m = (.ok items, m')) :
    items = rs.map (s.itemOf .parser) ∧ (∀ r ∈ rs, r.body.isPlain = true) ∧
      m' = rs.foldl (s.noted .parser) m := by
  induction rs generalizing m items with
  | nil =>
    cases h
    exact ⟨rfl, fun r hr => absurd hr List.not_mem_nil, rfl⟩
  | cons r rs ih =>
    obtain ⟨i, m₁, hi, h⟩ := runFrom_bind_eq_ok h
    obtain ⟨is, m₂, his, h⟩ := runFrom_bind_eq_ok h
    cases h
    obtain ⟨hp, rfl, rfl⟩ := item_ok hi
    obtain ⟨rfl, hps, rfl⟩ := ih his
    refine ⟨rfl, fun q hq => ?_, rfl⟩
    rcases List.mem_cons.mp hq with rfl | hq
    · exact hp
    · exact hps q hq

theorem mem_referrers_notedAll {s : Source} {mode : Mode} {rs : List Rule} {m : UsageMap Nat}
    {x n : String} :
    n ∈ (rs.foldl (s.noted mode) m).referrers x ↔
      n ∈ m.referrers x ∨ (x ≠ n ∧ ∃ r ∈ rs, r.name = n ∧ x ∈ s.view.heard mode r.body) := by
  induction rs generalizing m with
  | nil => simp
  | cons r rs ih =>
    rw [List.foldl_cons, ih, mem_referrers_noted]
    constructor
    · rintro ((hm | ⟨rfl, hx, hh⟩) | ⟨hx, q, hq, rfl, hh⟩)
      · exact .inl hm
      · exact .inr ⟨hx, r, List.mem_cons_self, rfl, hh⟩
      · exact .inr ⟨hx, q, List.mem_cons_of_mem _ hq, rfl, hh⟩
    · rintro (hm | ⟨hx, q, hq, rfl, hh⟩)
      · exact .inl (.inl hm)
      · rcases List.mem_cons.mp hq with rfl | hq
        · exact .inl (.inr ⟨rfl, hx, hh⟩)
        · exact .inr ⟨hx, q, hq, rfl, hh⟩

theorem sound_notedAll {s : Source} {mode : Mode} {rs : List Rule} {m : UsageMap Nat}
    (h : m.Sound) : (rs.foldl (s.noted mode) m).Sound := by
  induction rs generalizing m with
  | nil => exact h
  | cons r rs ih => exact ih (h.recordAll r.name _)

theorem handle?_notedAll {s : Source} {mode : Mode} {rs : List Rule} {m : UsageMap Nat}
    (x : String) : (rs.foldl (s.noted mode) m).handle? x = m.handle? x := by
  induction rs generalizing m with
  | nil => rfl
  | cons r rs ih => exact ih.trans (m.handle?_recordAll r.name _ x)

/-! ## 3. Lexer rules -/

/-- The invariant of visits that began with nothing laid out: what is laid out comes from the table
    and is used, and the usages are those of the start with the rules laid out noted. -/
structure Found (s : Source) (rs : List Rule) (m₀ : UsageMap Nat) (done : List Item)
    (m : UsageMap Nat) : Prop where
  items : ∀ i ∈ done, i.rule ∈ rs ∧ i = s.itemOf .lexer i.rule ∧ i.rule.body.isPlain = true
  used : ∀ i ∈ done, m.isUsed i.rule.name = true
  usages : m = (done.map Item.rule).foldl (s.noted .lexer) m₀

theorem isUsed_noted {s : Source} {mode : Mode} {m : UsageMap Nat} {r : Rule} {x : String}
    (h : m.isUsed x = true) : (s.noted mode m r).isUsed x = true := by
  obtain ⟨n, hn⟩ := UsageMap.isUsed_iff.mp h
  exact UsageMap.isUsed_iff.mpr ⟨n, mem_referrers_noted.mpr (.inl hn)⟩

theorem found_of_visits {s : Source} {rs : List Rule} {m₀ : UsageMap Nat}
    {b : List Item × UsageMap Nat} (h : Visits s rs ([], m₀) b) : Found s rs m₀ b.1 b.2 := by
  induction h with
  | refl => exact ⟨fun i hi => absurd hi List.not_mem_nil,
      fun i hi => absurd hi List.not_mem_nil, rfl⟩
  | tail _ hv ih =>
    cases hv with
    | visit done m r hr hnew hused hplain =>
      refine ⟨fun i hi => ?_, fun i hi => isUsed_noted ?_, ?_⟩
      · rcases List.mem_append.mp hi with hi | hi
        · exact ih.items i hi
        · rw [List.mem_singleton.mp hi]
          exact ⟨hr, rfl, hplain⟩
      · rcases List.mem_append.mp hi with hi | hi
        · exact ih.used i hi
        · rw [List.mem_singleton.mp hi]
          exact hused
      · show s.noted .lexer m r =
          ((done ++ [s.itemOf .lexer r]).map Item.rule).foldl (s.noted .lexer) m₀
        rw [List.map_append, List.foldl_append, ← ih.usages]
        rfl

/-- Names that hold whatever the start uses, and whatever their own rules refer to, hold all that
    is laid out. -/
theorem visits_least {s : Source} {rs : List Rule} {m₀ : UsageMap Nat}
    {b : List Item × UsageMap Nat} (h : Visits s rs ([], m₀) b) {S : Set String}
    (hstart : ∀ r ∈ rs, m₀.isUsed r.name = true → r.name ∈ S)
    (hstep : ∀ q ∈ rs, q.name ∈ S → ∀ r ∈ rs, r.name ≠ q.name →
      r.name ∈ s.view.heard .lexer q.body → r.name ∈ S) :
    ∀ i ∈ b.1, i.rule.name ∈ S := by
  induction h with
  | refl => exact fun i hi => absurd hi List.not_mem_nil
  | tail hvs hv ih =>
    cases hv with
    | visit done m r hr hnew hused hplain =>
      have hf := found_of_visits hvs
      intro i hi
      rcases List.mem_append.mp hi with hi | hi
      · exact ih i hi
      · rw [List.mem_singleton.mp hi]
        -- the rule is used: by a rule walked before the visits, or by one that was laid out
        obtain ⟨n, hn⟩ := UsageMap.isUsed_iff.mp hused
        have hm : m = (done.map Item.rule).foldl (s.noted .lexer) m₀ := hf.usages
        rw [hm] at hn
        rcases mem_referrers_notedAll.mp hn with hn | ⟨hne, q, hq, rfl, hh⟩
        · exact hstart r hr (UsageMap.isUsed_iff.mpr ⟨n, hn⟩)
        · obtain ⟨j, hj, rfl⟩ := List.mem_map.mp hq
          exact hstep j.rule (hf.items j hj).1 (ih j hj) r hr hne hh

/-- What the rounds find, in the order of declaration: the rules that are used in the end. -/
theorem documentLexer_ok {s : Source} {m₀ m : UsageMap Nat} {items : List Item}
    (h : runFrom s.documentLexer m₀ = (.ok items, m)) :
    ∃ done, Visits s s.rules.lexerRules.rules ([], m₀) (done, m) ∧
      (∀ r ∈ s.rules.lexerRules.rules, m.isUsed r.name = true ↔ ∃ i ∈ done, i.rule = r) ∧
      items = (s.rules.lexerRules.rules.filter fun r => m.isUsed r.name).map
        (s.itemOf .lexer) := by
  obtain ⟨done, m', hrun, h⟩ := runFrom_bind_eq_ok h
  cases h
  have hloop := lexerRounds_ends s s.rules.lexerRules.rules m₀
  obtain ⟨hv, hall⟩ := hloop.closed hrun
  have hf := found_of_visits hv
  have hiff : ∀ r ∈ s.rules.lexerRules.rules, m.isUsed r.name = true ↔ ∃ i ∈ done, i.rule = r := by
    intro r hr
    constructor
    · intro hu
      obtain ⟨i, hi, he⟩ := List.mem_map.mp (hall r hr hu)
      exact ⟨i, hi, RuleTable.eq_of_name (hf.items i hi).1 hr he⟩
    · rintro ⟨i, hi, rfl⟩
      exact hf.used i hi
  refine ⟨done, hv, hiff, ?_⟩
  rw [← List.filterMap_eq_map', List.filterMap_filter]
  refine List.filterMap_congr fun r hr => ?_
  by_cases hu : m.isUsed r.name = true
  · obtain ⟨i, hi, rfl⟩ := (hiff r hr).mp hu
    rw [if_pos hu]
    cases hfind : done.find? fun j => j.rule.name = i.rule.name with
    | none => exact absurd (List.find?_eq_none.mp hfind i hi) (by simp)
    | some j =>
      have hj := List.mem_of_find?_eq_some hfind
      have hname : j.rule.name = i.rule.name := by simpa using List.find?_some hfind
      rw [(hf.items j hj).2.1, RuleTable.eq_of_name (hf.items j hj).1 hr hname]
  · rw [if_neg hu]
    refine List.find?_eq_none.mpr fun j hj he => hu ?_
    have hname : j.rule.name = r.name := by simpa using he
    exact hname ▸ hf.used j hj

/-! ## 4. The survey -/

/-- The rules that a run walks: all parser rules and the lexer rules that are used. -/
def Walked (s : Source) (m : UsageMap Nat) (mode : Mode) (r : Rule) : Prop :=
  r ∈ (s.rules.table mode).rules ∧ (mode = .lexer → m.isUsed r.name = true)

theorem walked_of_mem_parserRules {s : Source} {m : UsageMap Nat} {r : Rule}
    (h : r ∈ s.rules.parserRules.rules) : s.Walked m .parser r :=
  ⟨h, Mode.noConfusion⟩

/-- **What is known once all rules have been walked**: the items to write and who refers to whom. -/
structure Survey (s : Source) (lexerItems parserItems : List Item) (m : UsageMap Nat) :
    Prop where
  lexer : lexerItems =
    (s.rules.lexerRules.rules.filter fun r => m.isUsed r.name).map (s.itemOf .lexer)
  parser : parserItems = s.rules.parserRules.rules.map (s.itemOf .parser)
  plain : ∀ mode r, s.Walked m mode r → r.body.isPlain = true
  referrers : ∀ x n, n ∈ m.referrers x ↔
    x ≠ n ∧ ∃ mode r, s.Walked m mode r ∧ r.name = n ∧ x ∈ s.view.heard mode r.body
  sound : m.Sound
  unbound : ∀ x, m.handle? x = none
  least : ∀ S : Set String,
    (∀ mode q, q ∈ (s.rules.table mode).rules → (mode = .lexer → q.name ∈ S) →
      ∀ r ∈ s.rules.lexerRules.rules, r.name ≠ q.name → r.name ∈ s.view.heard mode q.body →
        r.name ∈ S) →
    ∀ r ∈ s.rules.lexerRules.rules, m.isUsed r.name = true → r.name ∈ S

/-- **Walking the parser rules and then, in rounds, the lexer rules gives a survey.** -/
theorem survey_of_walks {s : Source} {m₁ m₂ : UsageMap Nat} {lexerItems parserItems : List Item}
    (hparser : runFrom (s.documentParser s.rules.parserRules.rules) (.ofSymbols s.rules.names) =
      (.ok parserItems, m₁))
    (hlexer : runFrom s.documentLexer m₁ = (.ok lexerItems, m₂)) :
    Survey s lexerItems parserItems m₂ := by
  obtain ⟨hp, hpplain, hm₁⟩ := documentParser_ok hparser
  obtain ⟨done, hv, hiff, hl⟩ := documentLexer_ok hlexer
  have hf := found_of_visits hv
  have hm₂ : m₂ = (done.map Item.rule).foldl (s.noted .lexer) m₁ := hf.usages
  have hparserRefs : ∀ x n, n ∈ m₁.referrers x ↔
      x ≠ n ∧ ∃ r ∈ s.rules.parserRules.rules, r.name = n ∧ x ∈ s.view.heard .parser r.body := by
    intro x n
    rw [hm₁, mem_referrers_notedAll, UsageMap.referrers_ofSymbols]
    simp
  refine ⟨hl, hp, ?_, fun x n => ?_, ?_, fun x => ?_, fun S hS r hr hu => ?_⟩
  · rintro (_ | _) r ⟨hr, hu⟩
    · obtain ⟨i, hi, rfl⟩ := (hiff r hr).mp (hu rfl)
      exact (hf.items i hi).2.2
    · exact hpplain r hr
  · rw [hm₂, mem_referrers_notedAll, hparserRefs, ← hm₂]
    constructor
    · rintro (⟨hx, r, hr, hn, hh⟩ | ⟨hx, r, hr, hn, hh⟩)
      · exact ⟨hx, .parser, r, walked_of_mem_parserRules hr, hn, hh⟩
      · obtain ⟨i, hi, rfl⟩ := List.mem_map.mp hr
        have hi' := (hf.items i hi).1
        exact ⟨hx, .lexer, i.rule, ⟨hi', fun _ => hf.used i hi⟩, hn, hh⟩
    · rintro ⟨hx, mode, r, ⟨hr, hu⟩, hn, hh⟩
      cases mode with
      | lexer =>
        obtain ⟨i, hi, rfl⟩ := (hiff r hr).mp (hu rfl)
        exact .inr ⟨hx, i.rule, List.mem_map_of_mem hi, hn, hh⟩
      | parser => exact .inl ⟨hx, r, hr, hn, hh⟩
  · rw [hm₂, hm₁]
    exact sound_notedAll (sound_notedAll (UsageMap.Sound.empty.seed _))
  · rw [hm₂, hm₁, handle?_notedAll, handle?_notedAll, UsageMap.handle?_ofSymbols]
  · obtain ⟨i, hi, rfl⟩ := (hiff r hr).mp hu
    refine visits_least hv (fun q hq hu' => ?_) (fun q hq hqS r hr hne hh => ?_) i hi
    · obtain ⟨n, hn⟩ := UsageMap.isUsed_iff.mp hu'
      obtain ⟨hne, p, hpr, rfl, hh⟩ := (hparserRefs q.name n).mp hn
      exact hS .parser p hpr Mode.noConfusion q hq hne hh
    · exact hS .lexer q hq (fun _ => hqS) r hr hne hh

end Script.Source

end GrammarManual
