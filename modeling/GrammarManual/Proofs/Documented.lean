import GrammarManual.Proofs.Usages
import Mathlib.Order.Bounds.Basic

/-!
# Proofs/Documented: which rules a manual holds

* `RuleSet.ClosedUnderUse` -- a set of names that holds every lexer rule that some other documented
  rule refers to;
* `Sheet.withoutUsages` -- a sheet as its item was written;
* **`documented_least`** -- a finished manual holds the lexer rules of the least such set and then
  all parser rules, each once and in the order of declaration; and the loop that finds that set
  ends on every input.
-/

namespace GrammarManual

/-- Parser rules and the lexer rules named in `S` refer to no other lexer rule than those in `S`
    and, perhaps, themselves. -/
def RuleSet.ClosedUnderUse (g : RuleSet) (S : Set String) : Prop :=
  ∀ mode, ∀ q ∈ (g.table mode).rules, (mode = .lexer → q.name ∈ S) →
    ∀ r ∈ g.lexerRules.rules, r.name ≠ q.name → g.Refers mode q r.name → r.name ∈ S

/-- The marks of a sheet but for its usages blocks. -/
def Sheet.withoutUsages (sheet : Sheet) : Sheet :=
  sheet.filter fun mark => match mark with
    | .usages _ => false
    | _ => true

namespace Script.Source

variable {s : Source} {lexerItems parserItems : List Item} {m : UsageMap Nat}

theorem withoutUsages_final (s : Source) (i : Item) (blocks : List (List String)) :
    Sheet.withoutUsages (s.sheetOf i ++ blocks.map .usages) = s.sheetOf i := by
  have hsheet : Sheet.withoutUsages (s.sheetOf i) = s.sheetOf i := by
    refine List.filter_eq_self.mpr fun mark hm => ?_
    cases mark with
    | usages names => exact absurd hm (s.usages_not_mem_sheetOf i names)
    | _ => rfl
  have hblocks : Sheet.withoutUsages (blocks.map .usages) = [] := by
    refine List.filter_eq_nil_iff.mpr fun mark hm => ?_
    obtain ⟨names, -, rfl⟩ := List.mem_map.mp hm
    exact Bool.false_ne_true
  unfold Sheet.withoutUsages at hsheet hblocks ⊢
  rw [List.filter_append, hsheet, hblocks, List.append_nil]

/-- The rules of a table that are used. -/
def usedRules (s : Source) (m : UsageMap Nat) : List Rule :=
  s.rules.lexerRules.rules.filter fun r => m.isUsed r.name

theorem mem_usedRules_iff {r : Rule} (hr : r ∈ s.rules.lexerRules.rules) :
    r.name ∈ (s.usedRules m).map Rule.name ↔ m.isUsed r.name = true := by
  constructor
  · intro h
    obtain ⟨q, hq, hname⟩ := List.mem_map.mp h
    have hused : m.isUsed q.name = true := (List.mem_filter.mp hq).2
    rwa [hname] at hused
  · intro h
    exact List.mem_map_of_mem (List.mem_filter.mpr ⟨hr, h⟩)

/-- **The used lexer rules of a survey are the least closed set.** -/
theorem Survey.isLeast (h : Survey s lexerItems parserItems m) (hl : s.rules.LiteralsAreNoNames) :
    IsLeast {S | s.rules.ClosedUnderUse S} {n | n ∈ (s.usedRules m).map Rule.name} := by
  constructor
  · intro mode q hq hdoc r hr hne href
    have hwalked : s.Walked m mode q := by
      refine ⟨hq, fun hm => ?_⟩
      subst hm
      exact (mem_usedRules_iff hq).mp (hdoc rfl)
    refine (mem_usedRules_iff hr).mpr (UsageMap.isUsed_iff.mpr ⟨q.name, ?_⟩)
    have hheard := (mem_heard_iff hl hq (h.plain mode q hwalked)
      (RuleSet.mem_names .lexer hr)).mpr href
    exact (h.referrers r.name q.name).mpr ⟨hne, mode, q, hwalked, rfl, hheard⟩
  · intro S hS n hn
    obtain ⟨r, hr, rfl⟩ := List.mem_map.mp hn
    obtain ⟨hr, hu⟩ := List.mem_filter.mp hr
    refine h.least S (fun mode q hq hdoc r hr hne hheard => ?_) r hr hu
    exact hS mode q hq hdoc r hr hne
      (refers_of_mem_heard hl hq (RuleSet.mem_names .lexer hr) hheard)

end Script.Source

open Script in
/-- **Which rules a manual documents.** The loop over the lexer rules ends on every input; and a
    finished manual holds the items of the lexer rules of the least closed set, then those of all
    parser rules. -/
theorem documented_least [PatternLanguage] (rules : RuleSet) :
    (∀ (s : Source) (rs : List Rule) (m : UsageMap Nat),
      s.Rounds rs [] m (runFrom (s.lexerRounds rs (rs.length + 1) []) m)) ∧
    (rules.LiteralsAreNoNames → ∀ (settings : Settings) (files : FileTree) (e : Easel)
      (state : e.State) (document : String),
      ((rules.script settings files).perform e state).2.result = .ok document →
      ∃ used : List Rule, used.Sublist rules.lexerRules.rules ∧
        IsLeast {S | rules.ClosedUnderUse S} {n | n ∈ used.map Rule.name} ∧
        (rules.script settings files).sheets.map Sheet.name? =
          (used.map Rule.name ++ rules.parserRules.names).map some ∧
        ∃ pattern, Pattern.read settings.pattern = .ok pattern ∧
          let s : Source := ⟨rules, settings, files, pattern⟩
          (rules.script settings files).sheets.map Sheet.withoutUsages =
            used.map (fun r => s.sheetOf (s.itemOf .lexer r)) ++
              rules.parserRules.rules.map (fun r => s.sheetOf (s.itemOf .parser r))) := by
  refine ⟨Source.lexerRounds_ends, fun hl settings files e state document h => ?_⟩
  obtain ⟨hstop, -⟩ := perform_ok h
  obtain ⟨s, rfl, rfl, rfl, hpattern, lexerItems, parserItems, hs, hsheets⟩ :=
    RuleSet.script_sheets hstop
  rw [hsheets]
  refine ⟨s.usedRules s.recorded, List.filter_sublist, hs.isLeast hl, ?_, s.pattern, hpattern, ?_⟩
  · rw [Source.map_finalSheets s.name?_final, hs.lexer, hs.parser, List.map_append, List.map_append,
      List.map_map, List.map_map, List.map_map, RuleTable.names, List.map_map]
    rfl
  · show _ = (s.usedRules s.recorded).map (fun r => s.sheetOf (s.itemOf .lexer r)) ++ _
    rw [Source.map_finalSheets s.withoutUsages_final, hs.lexer, hs.parser, List.map_append,
      List.map_map, List.map_map]
    rfl

theorem documented_least_sums :
    IsLeast {S | RuleSet.sums.ClosedUnderUse S} {n | n ∈ ["DIGIT", "NUMBER", "PLUS"]} ∧
      (RuleSet.sums.script {} {}).sheets.map Sheet.name? =
        [some "DIGIT", some "NUMBER", some "PLUS", some "sum"] := by
  have hnames : (RuleSet.sums.script {} {}).sheets.map Sheet.name? =
      [some "DIGIT", some "NUMBER", some "PLUS", some "sum"] := by decide +kernel
  obtain ⟨document, h⟩ := RuleSet.sums_finishes
  obtain ⟨used, -, hleast, hsheets, -⟩ :=
    (documented_least RuleSet.sums).2 RuleSet.sums_literals {} {} textEasel textEasel.fresh
      document h
  have hused : used.map Rule.name = ["DIGIT", "NUMBER", "PLUS"] := by
    rw [hnames] at hsheets
    have hparser : RuleSet.sums.parserRules.names = ["sum"] := rfl
    rw [hparser, List.map_append] at hsheets
    have hcut : ["DIGIT", "NUMBER", "PLUS"].map some = (used.map Rule.name).map some :=
      List.append_inj_left' hsheets rfl
    exact (List.map_injective_iff.mpr (Option.some_injective _) hcut).symm
  rw [hused] at hleast
  exact ⟨hleast, hnames⟩

end GrammarManual
