import GrammarManual.Proofs.UsageMap

/-!
# Proofs/Heard: what a walk leaves in the map of usages

A walk may stop in the middle of a body. What it has recorded by then stays, and this file says what
that is, for any tree at all.

* `Expr.stray?` -- what stops a walk at a leaf that no rule encloses. `meetAll_outside` says that
  such a walk records nothing;
* `LiteralIndex.symbol?` -- what a leaf is recorded under;
* `UsageMap.Gains` -- a map with the symbols of some leaves noted for one rule; `gains_recordAll`;
* **`walk_records`** -- when a walk stops and what it has recorded, inside a rule and outside.
-/

namespace GrammarManual

/-! ## 1. Outside of rules -/

/-- What stops a walk at a leaf that no rule encloses, if anything does. -/
def Expr.stray? : Expr → Option WalkError
  | .reference _ | .literal _ => some .outsideRule
  | .foreign => some .foreign
  | _ => none

theorem Expr.isKnown_eq_false {e : Expr} : e.isKnown = false ↔ e = .foreign := by
  cases e <;> simp [isKnown]

variable {H : Type}

/-- Outside of rules the first leaf that refers to something, or is no expression, stops a walk,
    and nothing is recorded. -/
theorem View.meetAll_outside (v : View) (mode : Mode) (m : UsageMap H) (leaves : List Expr) :
    v.meetAll none mode m leaves = (leaves.findSome? Expr.stray?, m) := by
  induction leaves with
  | nil => rfl
  | cons leaf leaves ih =>
    rw [View.meetAll, List.findSome?_cons]
    cases leaf with
    | reference | literal | foreign => rfl
    | _ => exact ih

/-! ## 2. Symbols -/

/-- What a leaf is recorded under, if it refers to something: the name of a reference; the token
    that stands for a literal of a parser rule, or else the text of the literal. -/
def LiteralIndex.symbol? (index : LiteralIndex) (mode : Mode) : Expr → Option String
  | .reference name => some name
  | .literal text =>
    match mode with
    | .lexer => some text
    | .parser => some ((index.token? text).getD text)
  | _ => none

theorem View.symbol?_eq (v : View) (mode : Mode) (e : Expr) :
    v.symbol? mode e = v.literals.symbol? mode e := by
  cases e with
  | literal text =>
    have hsymbol : v.symbol? mode (.literal text) = some (v.literal mode text).2 := rfl
    rw [hsymbol]
    unfold View.literal
    cases mode with
    | lexer => rfl
    | parser =>
      show _ = some ((v.literals.token? text).getD text)
      cases v.literals.token? text <;> rfl
  | _ => rfl

namespace UsageMap

/-- `m'` is `m` with an entry for each of some symbols, in which `name` is a referrer unless it is
    the symbol itself. -/
structure Gains (m m' : UsageMap H) (name : String) (symbols : List String) : Prop where
  /-- New symbols come last, in the order in which they are mentioned first. -/
  mentioned : m'.entries.map Prod.fst = m.entries.map Prod.fst ++
    (symbols.filter fun x => x ∉ m.entries.map Prod.fst).eraseDups
  referrers : ∀ x r, r ∈ m'.referrers x ↔ r ∈ m.referrers x ∨ (r = name ∧ x ≠ name ∧ x ∈ symbols)
  handle : ∀ x, m'.handle? x = m.handle? x
  others : ∀ x ∉ symbols, m'.find? x = m.find? x
  sound : m.Sound → m'.Sound

theorem keys_recordAll (m : UsageMap H) (name : String) (symbols : List String) :
    (m.recordAll name symbols).entries.map Prod.fst = m.entries.map Prod.fst ++
      (symbols.filter fun x => x ∉ m.entries.map Prod.fst).eraseDups := by
  induction symbols generalizing m with
  | nil => simp [recordAll]
  | cons s ss ih =>
    have hstep : m.recordAll name (s :: ss) = (m.record s name).recordAll name ss := rfl
    have hkeys : (m.record s name).entries.map Prod.fst =
        if s ∈ m.entries.map Prod.fst then m.entries.map Prod.fst
        else m.entries.map Prod.fst ++ [s] := keys_update s _ m.entries
    rw [hstep, ih, hkeys]
    by_cases hs : s ∈ m.entries.map Prod.fst
    · rw [if_pos hs, List.filter_cons_of_neg (by simpa using hs)]
    · have hrest : (ss.filter fun x => x ∉ m.entries.map Prod.fst ++ [s]) =
          (ss.filter fun x => x ∉ m.entries.map Prod.fst).filter fun x => !(x == s) := by
        rw [List.filter_filter]
        refine List.filter_congr fun x _ => Bool.eq_iff_iff.mpr ?_
        rw [decide_eq_true_iff, List.mem_append, List.mem_singleton]
        simp [and_comm]
      rw [if_neg hs, List.filter_cons_of_pos (by simpa using hs), List.eraseDups_cons, hrest,
        List.append_assoc]
      rfl

theorem find?_recordAll_of_notMem {m : UsageMap H} {name x : String} {symbols : List String}
    (hx : x ∉ symbols) : (m.recordAll name symbols).find? x = m.find? x := by
  induction symbols generalizing m with
  | nil => rfl
  | cons s ss ih =>
    have hs : x ≠ s := List.ne_of_not_mem_cons hx
    have hss : x ∉ ss := List.not_mem_of_not_mem_cons hx
    have hone : (m.record s name).find? x = m.find? x := by
      unfold find? record
      rw [lookup_update, if_neg hs]
    exact (ih (m := m.record s name) hss).trans hone

/-- **What recording some symbols comes to.** -/
theorem gains_recordAll (m : UsageMap H) (name : String) (symbols : List String) :
    m.Gains (m.recordAll name symbols) name symbols where
  mentioned := keys_recordAll m name symbols
  referrers x r := by
    rw [mem_referrers_recordAll]
    exact or_congr_right ⟨fun ⟨hr, hx, hs⟩ => ⟨hr, hr ▸ hx, hs⟩,
      fun ⟨hr, hx, hs⟩ => ⟨hr, hr ▸ hx, hs⟩⟩
  handle := handle?_recordAll m name symbols
  others _ hx := find?_recordAll_of_notMem hx
  sound hm := hm.recordAll name symbols

end UsageMap

/-! ## 3. Walks -/

/-- **What a walk records, and what stops it**, over any tree, in any mode, at any depth and from
    any map of usages. Outside of rules it records nothing, and it stops at the first leaf that
    refers to something or is no expression. Inside a rule it stops only where the tree holds a
    value that is no expression; the symbols of all references and literals before the first such
    value have been recorded for the rule. -/
theorem walk_records (v : View) (p : Place) (e : Expr) (m : UsageMap H) :
    ∃ outcome m', runFrom (walk v p e) m = (outcome, m') ∧
      match p.rule? with
      | none =>
        m' = m ∧ ∀ err, outcome = .error err ↔ e.leaves.findSome? Expr.stray? = some err
      | some name =>
        (∀ err, outcome = .error err ↔ err = .foreign ∧ .foreign ∈ e.leaves) ∧
        m.Gains m' name
          ((e.leaves.takeWhile Expr.isKnown).filterMap (v.literals.symbol? p.mode)) := by
  cases hp : p.rule? with
  | none =>
    have hrun := walk_outcome v e p m
    unfold View.outcome at hrun
    rw [hp, View.meetAll_outside] at hrun
    cases hstray : e.leaves.findSome? Expr.stray? with
    | none =>
      rw [hstray] at hrun
      exact ⟨_, _, hrun, rfl, fun err => ⟨nofun, nofun⟩⟩
    | some err =>
      rw [hstray] at hrun
      refine ⟨_, _, hrun, rfl, fun err' => ?_⟩
      rw [Except.error.injEq, Option.some.injEq]
  | some name =>
    refine ⟨_, _, walk_run v e p m hp, fun err => ?_, ?_⟩
    · cases hall : e.leaves.all Expr.isKnown with
      | true =>
        have hnone : .foreign ∉ e.leaves := fun hmem =>
          absurd (List.all_eq_true.mp hall _ hmem) Bool.false_ne_true
        exact ⟨nofun, fun ⟨_, hmem⟩ => absurd hmem hnone⟩
      | false =>
        obtain ⟨leaf, hleaf, hunknown⟩ := List.all_eq_false.mp hall
        have hforeign : leaf = .foreign :=
          Expr.isKnown_eq_false.mp (Bool.not_eq_true _ ▸ hunknown)
        refine ⟨fun herr => ⟨?_, hforeign ▸ hleaf⟩, fun ⟨herr, _⟩ => herr ▸ rfl⟩
        exact (Except.error.inj herr).symm
    · have hsymbols : v.symbols p.mode e.leaves =
          (e.leaves.takeWhile Expr.isKnown).filterMap (v.literals.symbol? p.mode) := by
        unfold View.symbols
        exact List.filterMap_congr fun leaf _ => v.symbol?_eq p.mode leaf
      rw [← hsymbols]
      exact UsageMap.gains_recordAll m name _

/-- What stands behind a value that is no expression is not heard. -/
example : runFrom (walk { limit := 80 } { rule? := some "r", mode := .parser }
      (.sequence [.reference "a", .repeated .foreign .optional true, .literal "'b'"]))
      (.empty : UsageMap Nat) =
    (.error .foreign, ⟨[("a", { referrers := ["r"] })]⟩) := rfl

end GrammarManual
