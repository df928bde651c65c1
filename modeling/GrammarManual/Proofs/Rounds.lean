import GrammarManual.Document.Script
import GrammarManual.Proofs.UsageMap
import Mathlib.Data.List.Perm.Subperm
import Mathlib.Logic.Relation

/-!
# Proofs/Rounds: which rules are laid out

The lexer rules to document are found in rounds over the table until a round finds none. The map of
usages changes while a round goes on, so this file looks at single visits instead:

* `Visit` -- one step: a rule that is used and not yet laid out is laid out;
* `Rounds` -- the loop without a bound; `lexerRounds_ends` shows that the bounded rounds of
  `Source.lexerRounds` come to the same, on every input;
* `Rounds.closed` -- a finished loop was made of visits and has left out no rule that is used.
-/

namespace GrammarManual.Script.Source

/-! ## 1. One rule -/

/-- Lays out a rule as a view shows it. -/
def itemIn (s : Source) (v : View) (mode : Mode) (r : Rule) : Walk Nat Item := do
  let body ← r.walkBody v mode
  let opens := sectionAt s.pattern (s.rules.lines mode) s.settings.offset r.line
  return { rule := r, body, opens }

theorem item_eq_itemIn (s : Source) (mode : Mode) (r : Rule) :
    s.item mode r = s.itemIn s.view mode r := rfl

theorem itemIn_run (s : Source) (v : View) (mode : Mode) (r : Rule) (m : UsageMap Nat) :
    runFrom (s.itemIn v mode r) m =
      (if r.body.isPlain then
        .ok { rule := r, body := r.body.layout v mode 0,
              opens := sectionAt s.pattern (s.rules.lines mode) s.settings.offset r.line }
      else .error .foreign, m.recordAll r.name (v.heard mode r.body)) := by
  have h := r.walkBody_run v mode m
  unfold itemIn
  cases hp : r.body.isPlain with
  | true =>
    rw [hp] at h
    rw [runFrom_bind_ok h]
    rfl
  | false =>
    rw [hp] at h
    rw [runFrom_bind_error h]
    rfl

/-- A rule of one mode as it is laid out. -/
def itemOf (s : Source) (mode : Mode) (r : Rule) : Item where
  rule := r
  body := r.body.layout s.view mode 0
  opens := sectionAt s.pattern (s.rules.lines mode) s.settings.offset r.line

/-- The usages after a rule has been walked. -/
def noted (s : Source) (mode : Mode) (m : UsageMap Nat) (r : Rule) : UsageMap Nat :=
  m.recordAll r.name (s.view.heard mode r.body)

theorem item_run (s : Source) (mode : Mode) (r : Rule) (m : UsageMap Nat) :
    runFrom (s.item mode r) m =
      (if r.body.isPlain then .ok (s.itemOf mode r) else .error .foreign, s.noted mode m r) :=
  s.itemIn_run s.view mode r m

theorem item_ok {s : Source} {mode : Mode} {r : Rule} {m m' : UsageMap Nat} {i : Item}
    (h : runFrom (s.item mode r) m = (.ok i, m')) :
    r.body.isPlain = true ∧ i = s.itemOf mode r ∧ m' = s.noted mode m r := by
  rw [item_run] at h
  split at h
  · rename_i hp
    cases h
    exact ⟨hp, rfl, rfl⟩
  · cases h

theorem mem_referrers_noted {s : Source} {mode : Mode} {m : UsageMap Nat} {r : Rule}
    {x n : String} :
    n ∈ (s.noted mode m r).referrers x ↔
      n ∈ m.referrers x ∨ (n = r.name ∧ x ≠ n ∧ x ∈ s.view.heard mode r.body) :=
  UsageMap.mem_referrers_recordAll

/-! ## 2. Visits -/

/-- One lexer rule is laid out: some other rule refers to it, and it was not laid out before. -/
inductive Visit (s : Source) (rs : List Rule) :
    List Item × UsageMap Nat → List Item × UsageMap Nat → Prop where
  | visit (done : List Item) (m : UsageMap Nat) (r : Rule) (hr : r ∈ rs)
      (hnew : r.name ∉ done.map fun i => i.rule.name) (hused : m.isUsed r.name = true)
      (hplain : r.body.isPlain = true) :
      Visit s rs (done, m) (done ++ [s.itemOf .lexer r], s.noted .lexer m r)

/-- Visits one after the other. -/
abbrev Visits (s : Source) (rs : List Rule) :
    List Item × UsageMap Nat → List Item × UsageMap Nat → Prop :=
  Relation.ReflTransGen (Visit s rs)

section Visits

variable {s : Source} {rs : List Rule}

theorem visits_length {a b : List Item × UsageMap Nat} (h : Visits s rs a b) :
    a.1.length ≤ b.1.length := by
  induction h with
  | refl => exact Nat.le_refl _
  | tail _ hv ih =>
    cases hv with
    | visit done m r =>
      refine Nat.le_trans ih ?_
      simp

theorem any_name_iff (done : List Item) (name : String) :
    (done.any fun i => i.rule.name = name) = true ↔ name ∈ done.map fun i => i.rule.name := by
  simp

/-- What a round does with one rule: it passes over a rule that is not used or was laid out before,
    and lays out any other. -/
theorem lexerRound_cons {r : Rule} {todo : List Rule} {done done' : List Item}
    {m m' : UsageMap Nat} (h : runFrom (s.lexerRound (r :: todo) done) m = (.ok done', m')) :
    ((m.isUsed r.name = true → r.name ∈ done.map fun i => i.rule.name) ∧
        runFrom (s.lexerRound todo done) m = (.ok done', m')) ∨
      ((r.name ∉ done.map fun i => i.rule.name) ∧ m.isUsed r.name = true ∧
        r.body.isPlain = true ∧
        runFrom (s.lexerRound todo (done ++ [s.itemOf .lexer r])) (s.noted .lexer m r) =
          (.ok done', m')) := by
  cases hin : done.any fun i => i.rule.name = r.name with
  | true =>
    rw [lexerRound, hin] at h
    exact .inl ⟨fun _ => (any_name_iff done r.name).mp hin, h⟩
  | false =>
    rw [lexerRound, hin] at h
    obtain ⟨m₀, m₁, hget, h⟩ := runFrom_bind_eq_ok h
    cases hget
    cases hu : m.isUsed r.name with
    | false =>
      rw [hu] at h
      exact .inl ⟨fun hused => absurd hused Bool.false_ne_true, h⟩
    | true =>
      rw [hu] at h
      obtain ⟨i, m₂, hitem, h⟩ := runFrom_bind_eq_ok h
      obtain ⟨hplain, rfl, rfl⟩ := item_ok hitem
      have hnew : r.name ∉ done.map fun i => i.rule.name := by
        rw [← any_name_iff, hin]
        exact Bool.false_ne_true
      exact .inr ⟨hnew, rfl, hplain, h⟩

/-- **A round is a sequence of visits.** One that finds nothing changes nothing, and every rule
    that is used has been laid out before it. -/
theorem lexerRound_visits {todo : List Rule} (htodo : ∀ r ∈ todo, r ∈ rs)
    {done done' : List Item} {m m' : UsageMap Nat}
    (h : runFrom (s.lexerRound todo done) m = (.ok done', m')) :
    Visits s rs (done, m) (done', m') ∧
      (done'.length = done.length → done' = done ∧ m' = m ∧
        ∀ r ∈ todo, m.isUsed r.name = true → r.name ∈ done.map fun i => i.rule.name) := by
  induction todo generalizing done m with
  | nil =>
    cases h
    exact ⟨.refl, fun _ => ⟨rfl, rfl, fun r hr => absurd hr List.not_mem_nil⟩⟩
  | cons r todo ih =>
    have hrest : ∀ q ∈ todo, q ∈ rs := fun q hq => htodo q (List.mem_cons_of_mem _ hq)
    rcases lexerRound_cons h with ⟨hpassed, h⟩ | ⟨hnew, hused, hplain, h⟩
    · obtain ⟨hv, hstop⟩ := ih hrest h
      refine ⟨hv, fun hl => ?_⟩
      obtain ⟨hd, hm, hall⟩ := hstop hl
      refine ⟨hd, hm, fun q hq hu => ?_⟩
      rcases List.mem_cons.mp hq with rfl | hq
      · exact hpassed hu
      · exact hall q hq hu
    · obtain ⟨hv, _⟩ := ih hrest h
      have hvisit := Visit.visit (s := s) done m r (htodo r List.mem_cons_self) hnew hused hplain
      refine ⟨.head hvisit hv, fun hl => ?_⟩
      have hlen := visits_length hv
      simp only [List.length_append, List.length_singleton] at hlen
      omega

/-- What visits leave: names of the table, each once. -/
theorem visits_names {a b : List Item × UsageMap Nat} (h : Visits s rs a b)
    (hd : (a.1.map fun i => i.rule.name).Nodup)
    (hs : ∀ n ∈ a.1.map fun i => i.rule.name, n ∈ rs.map Rule.name) :
    (b.1.map fun i => i.rule.name).Nodup ∧
      ∀ n ∈ b.1.map fun i => i.rule.name, n ∈ rs.map Rule.name := by
  induction h with
  | refl => exact ⟨hd, hs⟩
  | tail _ hv ih =>
    cases hv with
    | visit done m r hr hnew _ _ =>
      obtain ⟨hd', hs'⟩ := ih
      have hmap : (done ++ [s.itemOf .lexer r]).map (fun i => i.rule.name) =
          done.map (fun i => i.rule.name) ++ [r.name] := List.map_append
      refine ⟨?_, fun n hn => ?_⟩
      · show ((done ++ [s.itemOf .lexer r]).map fun i => i.rule.name).Nodup
        rw [hmap]
        refine List.nodup_append.mpr ⟨hd', List.nodup_singleton _, fun x hx y hy e => ?_⟩
        rw [List.mem_singleton.mp hy] at e
        exact hnew (e ▸ hx)
      · have hn' : n ∈ (done ++ [s.itemOf .lexer r]).map fun i => i.rule.name := hn
        rw [hmap] at hn'
        rcases List.mem_append.mp hn' with hn' | hn'
        · exact hs' n hn'
        · rw [List.mem_singleton.mp hn']
          exact List.mem_map_of_mem hr

end Visits

/-! ## 3. The loop -/

/-- **The loop over rounds, without a bound**: it ends after a round that finds nothing, or with
    the error of a walk. -/
inductive Rounds (s : Source) (rs : List Rule) :
    List Item → UsageMap Nat → Except WalkError (List Item) × UsageMap Nat → Prop where
  | last {done done' : List Item} {m m' : UsageMap Nat}
      (hround : runFrom (s.lexerRound rs done) m = (.ok done', m'))
      (hsame : done'.length = done.length) : Rounds s rs done m (.ok done', m')
  | again {done done' : List Item} {m m' : UsageMap Nat}
      {out : Except WalkError (List Item) × UsageMap Nat}
      (hround : runFrom (s.lexerRound rs done) m = (.ok done', m'))
      (hmore : done'.length ≠ done.length) (hrest : Rounds s rs done' m' out) :
      Rounds s rs done m out
  | broken {done : List Item} {m m' : UsageMap Nat} {e : WalkError}
      (hround : runFrom (s.lexerRound rs done) m = (.error e, m')) :
      Rounds s rs done m (.error e, m')

/-- As many rounds as there are rules left, and one more, are enough. -/
theorem lexerRounds_rounds (s : Source) (rs : List Rule) (n : Nat) (done : List Item)
    (m : UsageMap Nat) (hd : (done.map fun i => i.rule.name).Nodup)
    (hs : ∀ x ∈ done.map fun i => i.rule.name, x ∈ rs.map Rule.name)
    (hn : rs.length < n + done.length) :
    Rounds s rs done m (runFrom (s.lexerRounds rs n done) m) := by
  have hle : done.length ≤ rs.length := by
    have := (List.Nodup.subperm hd hs).length_le
    simpa using this
  induction n generalizing done m with
  | zero => omega
  | succ n ih =>
    rw [lexerRounds]
    cases hr : runFrom (s.lexerRound rs done) m with
    | mk result m' =>
      cases result with
      | error e =>
        rw [runFrom_bind_error hr]
        exact .broken hr
      | ok done' =>
        rw [runFrom_bind_ok hr]
        obtain ⟨hv, _⟩ := lexerRound_visits (fun r (h : r ∈ rs) => h) hr
        by_cases hl : done'.length = done.length
        · rw [if_pos hl]
          exact .last hr hl
        · rw [if_neg hl]
          have hgrow : done.length ≤ done'.length := visits_length hv
          obtain ⟨hd', hs'⟩ := visits_names hv hd hs
          have hle' : done'.length ≤ rs.length := by
            have := (List.Nodup.subperm hd' hs').length_le
            simpa using this
          exact .again hr hl (ih done' m' hd' hs' (by omega) hle')

/-- **The loop ends on every input**, with what the bounded rounds give. -/
theorem lexerRounds_ends (s : Source) (rs : List Rule) (m : UsageMap Nat) :
    Rounds s rs [] m (runFrom (s.lexerRounds rs (rs.length + 1) []) m) :=
  lexerRounds_rounds s rs _ [] m List.nodup_nil (fun _ h => absurd h List.not_mem_nil)
    (by simp)

/-- A finished loop has laid out every rule that is used. -/
theorem Rounds.closed {s : Source} {rs : List Rule} {done : List Item} {m : UsageMap Nat}
    {out : Except WalkError (List Item) × UsageMap Nat} (h : Rounds s rs done m out)
    {done' : List Item} {m' : UsageMap Nat} (hout : out = (.ok done', m')) :
    Visits s rs (done, m) (done', m') ∧
      ∀ r ∈ rs, m'.isUsed r.name = true → r.name ∈ done'.map fun i => i.rule.name := by
  induction h with
  | last hround hsame =>
    cases hout
    obtain ⟨hv, hstop⟩ := lexerRound_visits (fun r (h : r ∈ rs) => h) hround
    obtain ⟨rfl, rfl, hall⟩ := hstop hsame
    exact ⟨hv, hall⟩
  | again hround _ _ ih =>
    obtain ⟨hv, _⟩ := lexerRound_visits (fun r (h : r ∈ rs) => h) hround
    obtain ⟨hv', hall⟩ := ih hout
    exact ⟨hv.trans hv', hall⟩
  | broken => cases hout

end GrammarManual.Script.Source
