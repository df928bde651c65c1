import GrammarManual.Proofs.Walk
import Mathlib.Data.List.Nodup

/-!
# Proofs/UsageMap: what a usage map knows after each operation

* `referrers_record`, `mem_referrers_recordAll` -- the referrers of a symbol are the rules it was
  recorded for, without itself;
* `handle?_bind` -- the first binding of a symbol is the one that counts;
* `UsageMap.Sound` -- the invariant of all maps: a symbol has one entry, its referrers are sorted
  and without repetition. Every operation keeps it;
* `flushedAt_bound` -- what a flush writes at a handle to which one symbol is bound.
-/

namespace GrammarManual

/-! ## 1. Sorted names -/

theorem pairwise_insert {name : String} {ns : List String} (h : ns.Pairwise (· < ·)) :
    (NameSet.insert name ns).Pairwise (· < ·) := by
  induction ns with
  | nil => exact List.pairwise_singleton _ _
  | cons n ns ih =>
    obtain ⟨hn, hs⟩ := List.pairwise_cons.mp h
    simp only [NameSet.insert]
    split
    · exact h
    · rename_i hne
      split
      · rename_i hlt
        refine List.pairwise_cons.mpr ⟨fun x hx => ?_, h⟩
        rcases List.mem_cons.mp hx with rfl | hx
        · exact hlt
        · exact String.lt_trans hlt (hn x hx)
      · rename_i hge
        have hlt : n < name :=
          Std.lt_of_le_of_ne (String.not_lt.mp hge) fun e => hne e.symm
        refine List.pairwise_cons.mpr ⟨fun x hx => ?_, ih hs⟩
        rcases NameSet.mem_insert.mp hx with rfl | hx
        · exact hlt
        · exact hn x hx

namespace UsageMap

variable {H : Type}

/-! ## 2. Entries -/

theorem lookup_update (symbol x : String) (f : Usage H → Usage H)
    (entries : List (String × Usage H)) :
    (update symbol f entries).lookup x =
      if x = symbol then some (f ((entries.lookup symbol).getD {})) else entries.lookup x := by
  induction entries with
  | nil =>
    by_cases hx : x = symbol
    · simp [update, hx]
    · have hne : (x == symbol) = false := by simpa using hx
      simp [update, hx, List.lookup_cons, hne]
  | cons e rest ih =>
    obtain ⟨s, u⟩ := e
    by_cases hs : s = symbol
    · subst hs
      by_cases hx : x = s
      · simp [update, hx]
      · have hne : (x == s) = false := by simpa using hx
        simp [update, List.lookup_cons, hx, hne]
    · simp only [update, if_neg hs, List.lookup_cons, ih]
      by_cases hx : x = symbol
      · subst hx
        have hne : (x == s) = false := by simpa using fun e => hs e.symm
        simp [hne]
      · simp [hx]

theorem keys_update (symbol : String) (f : Usage H → Usage H)
    (entries : List (String × Usage H)) :
    (update symbol f entries).map Prod.fst =
      if symbol ∈ entries.map Prod.fst then entries.map Prod.fst
      else entries.map Prod.fst ++ [symbol] := by
  induction entries with
  | nil => simp [update]
  | cons e rest ih =>
    obtain ⟨s, u⟩ := e
    by_cases hs : s = symbol
    · simp [update, hs]
    · have hs' : ¬ symbol = s := fun e => hs e.symm
      simp only [update, if_neg hs, List.map_cons, ih, List.mem_cons, hs', false_or]
      split <;> rfl

theorem nodup_keys_update {symbol : String} {f : Usage H → Usage H}
    {entries : List (String × Usage H)} (h : (entries.map Prod.fst).Nodup) :
    ((update symbol f entries).map Prod.fst).Nodup := by
  rw [keys_update]
  split
  · exact h
  · rename_i hs
    exact List.nodup_append.mpr ⟨h, List.nodup_singleton _, fun a ha b hb e => by
      rw [List.mem_singleton.mp hb] at e
      exact hs (e ▸ ha)⟩

theorem lookup_of_mem {entries : List (String × Usage H)} (hk : (entries.map Prod.fst).Nodup)
    {s : String} {u : Usage H} (h : (s, u) ∈ entries) : entries.lookup s = some u := by
  induction entries with
  | nil => exact absurd h List.not_mem_nil
  | cons e rest ih =>
    obtain ⟨t, w⟩ := e
    obtain ⟨ht, hk'⟩ := List.nodup_cons.mp hk
    rcases List.mem_cons.mp h with heq | hm
    · cases heq
      exact List.lookup_cons_self
    · have hne : (s == t) = false := by
        simpa using fun e : s = t => ht (e ▸ List.mem_map.mpr ⟨(s, u), hm, rfl⟩)
      rw [List.lookup_cons, hne]
      exact ih hk' hm

/-! ## 3. Referrers and handles -/

/-- Where a symbol is declared, as far as that is known. -/
def handle? (m : UsageMap H) (symbol : String) : Option H := (m.find? symbol).bind Usage.handle

theorem referrers_record (m : UsageMap H) (symbol referrer x : String) :
    (m.record symbol referrer).referrers x =
      if x = symbol ∧ symbol ≠ referrer then NameSet.insert referrer (m.referrers x)
      else m.referrers x := by
  unfold referrers find? record
  rw [lookup_update]
  by_cases hx : x = symbol
  · subst hx
    by_cases hr : x = referrer
    · cases h : m.entries.lookup x <;> simp [hr]
    · cases h : m.entries.lookup x <;> simp [hr]
  · simp [hx]

theorem handle?_record (m : UsageMap H) (symbol referrer x : String) :
    (m.record symbol referrer).handle? x = m.handle? x := by
  unfold handle? find? record
  rw [lookup_update]
  by_cases hx : x = symbol
  · subst hx
    cases h : m.entries.lookup x <;> by_cases hr : x = referrer <;> simp [hr]
  · simp [hx]

theorem referrers_bind (m : UsageMap H) (symbol : String) (handle : H) (x : String) :
    (m.bind symbol handle).referrers x = m.referrers x := by
  unfold referrers find? bind
  rw [lookup_update]
  by_cases hx : x = symbol
  · subst hx
    cases h : m.entries.lookup x with
    | none => simp
    | some u => cases hu : u.handle <;> simp [hu]
  · simp [hx]

theorem handle?_bind (m : UsageMap H) (symbol : String) (handle : H) (x : String) :
    (m.bind symbol handle).handle? x =
      if x = symbol then some ((m.handle? x).getD handle) else m.handle? x := by
  unfold handle? find? bind
  rw [lookup_update]
  by_cases hx : x = symbol
  · subst hx
    cases h : m.entries.lookup x with
    | none => simp
    | some u => cases hu : u.handle <;> simp [hu]
  · simp [hx]

theorem mem_referrers_record {m : UsageMap H} {symbol referrer x r : String} :
    r ∈ (m.record symbol referrer).referrers x ↔
      r ∈ m.referrers x ∨ (r = referrer ∧ x ≠ r ∧ x = symbol) := by
  rw [referrers_record]
  split
  · rename_i h
    obtain ⟨rfl, hne⟩ := h
    rw [NameSet.mem_insert]
    constructor
    · rintro (rfl | hm)
      · exact .inr ⟨rfl, hne, rfl⟩
      · exact .inl hm
    · rintro (hm | ⟨rfl, -, -⟩)
      · exact .inr hm
      · exact .inl rfl
  · rename_i h
    refine ⟨.inl, ?_⟩
    rintro (hm | ⟨rfl, hne, rfl⟩)
    · exact hm
    · exact absurd ⟨rfl, hne⟩ h

/-- Recording symbols adds the rule to their referrers, unless the rule is the symbol. -/
theorem mem_referrers_recordAll {symbols : List String} {m : UsageMap H} {referrer x r : String} :
    r ∈ (m.recordAll referrer symbols).referrers x ↔
      r ∈ m.referrers x ∨ (r = referrer ∧ x ≠ r ∧ x ∈ symbols) := by
  induction symbols generalizing m with
  | nil => simp [recordAll]
  | cons s ss ih =>
    have hstep : m.recordAll referrer (s :: ss) = (m.record s referrer).recordAll referrer ss := rfl
    rw [hstep, ih, mem_referrers_record, List.mem_cons]
    constructor
    · rintro ((hm | ⟨hr, hx, rfl⟩) | ⟨hr, hx, hs⟩)
      · exact .inl hm
      · exact .inr ⟨hr, hx, .inl rfl⟩
      · exact .inr ⟨hr, hx, .inr hs⟩
    · rintro (hm | ⟨hr, hx, rfl | hs⟩)
      · exact .inl (.inl hm)
      · exact .inl (.inr ⟨hr, hx, rfl⟩)
      · exact .inr ⟨hr, hx, hs⟩

theorem handle?_recordAll (m : UsageMap H) (referrer : String) (symbols : List String)
    (x : String) : (m.recordAll referrer symbols).handle? x = m.handle? x := by
  induction symbols generalizing m with
  | nil => rfl
  | cons s ss ih => exact (ih (m.record s referrer)).trans (handle?_record m s referrer x)

theorem isUsed_iff {m : UsageMap H} {symbol : String} :
    m.isUsed symbol = true ↔ ∃ r, r ∈ m.referrers symbol := by
  unfold isUsed
  cases m.referrers symbol with
  | nil => simp
  | cons r rs => simp

/-! ## 4. The invariant -/

/-- **The invariant of usage maps.** -/
structure Sound (m : UsageMap H) : Prop where
  distinct : (m.entries.map Prod.fst).Nodup
  sorted : ∀ x, (m.referrers x).Pairwise (· < ·)

theorem Sound.empty : (UsageMap.empty : UsageMap H).Sound where
  distinct := List.nodup_nil
  sorted _ := List.Pairwise.nil

theorem Sound.record {m : UsageMap H} (h : m.Sound) (symbol referrer : String) :
    (m.record symbol referrer).Sound where
  distinct := nodup_keys_update h.distinct
  sorted x := by
    rw [referrers_record]
    split
    · exact pairwise_insert (h.sorted x)
    · exact h.sorted x

theorem Sound.recordAll {m : UsageMap H} (h : m.Sound) (referrer : String)
    (symbols : List String) : (m.recordAll referrer symbols).Sound := by
  induction symbols generalizing m with
  | nil => exact h
  | cons s ss ih => exact ih (h.record s referrer)

theorem Sound.bind {m : UsageMap H} (h : m.Sound) (symbol : String) (handle : H) :
    (m.bind symbol handle).Sound where
  distinct := nodup_keys_update h.distinct
  sorted x := by
    rw [referrers_bind]
    exact h.sorted x

theorem Sound.seed {m : UsageMap H} (h : m.Sound) (symbols : List String) :
    (m.seed symbols).Sound := by
  induction symbols generalizing m with
  | nil => exact h
  | cons s ss ih =>
    refine ih (m := ⟨update s id m.entries⟩) ⟨nodup_keys_update h.distinct, fun x => ?_⟩
    have hs := h.sorted x
    unfold referrers find? at hs ⊢
    rw [lookup_update]
    split
    · rename_i hx
      subst hx
      cases hl : m.entries.lookup x with
      | none => exact List.Pairwise.nil
      | some u => rwa [hl] at hs
    · exact hs

theorem find?_seed (m : UsageMap H) (symbols : List String) (x : String) :
    (m.seed symbols).find? x =
      if x ∈ symbols then some ((m.find? x).getD {}) else m.find? x := by
  induction symbols generalizing m with
  | nil => simp [seed]
  | cons s ss ih =>
    have hstep : m.seed (s :: ss) = (UsageMap.mk (update s id m.entries)).seed ss := rfl
    have hfind : (UsageMap.mk (update s id m.entries)).find? x =
        if x = s then some ((m.find? s).getD {}) else m.find? x := lookup_update s x id m.entries
    rw [hstep, ih, hfind]
    by_cases hx : x = s
    · subst hx
      by_cases hs : x ∈ ss <;> simp [hs]
    · simp [hx]

theorem referrers_ofSymbols (symbols : List String) (x : String) :
    (ofSymbols symbols : UsageMap H).referrers x = [] := by
  unfold referrers ofSymbols
  rw [find?_seed]
  split <;> rfl

theorem handle?_ofSymbols (symbols : List String) (x : String) :
    (ofSymbols symbols : UsageMap H).handle? x = none := by
  unfold handle? ofSymbols
  rw [find?_seed]
  split <;> rfl

/-! ## 5. Flushing -/

/-- Of a list of entries with one key each, those that a reading `f` picks out are the one at `x`,
    if `f` picks out nothing at other keys. -/
theorem filterMap_of_nodup_keys {α : Type} {f : String × Usage H → Option α} {x : String}
    {entries : List (String × Usage H)} (hk : (entries.map Prod.fst).Nodup)
    (hf : ∀ e ∈ entries, e.1 ≠ x → f e = none) :
    entries.filterMap f = ((entries.lookup x).bind fun u => f (x, u)).toList := by
  induction entries with
  | nil => rfl
  | cons e rest ih =>
    obtain ⟨s, u⟩ := e
    obtain ⟨hs, hk'⟩ := List.nodup_cons.mp hk
    by_cases hx : s = x
    · subst hx
      have hnone : rest.filterMap f = [] := by
        refine List.filterMap_eq_nil_iff.mpr fun e he => hf e (List.mem_cons_of_mem _ he) ?_
        intro h
        exact hs (h ▸ List.mem_map.mpr ⟨e, he, rfl⟩)
      rw [List.filterMap_cons, hnone, List.lookup_cons_self]
      cases h : f (s, u) <;> simp [h]
    · have hne : (x == s) = false := by simpa using fun e => hx e.symm
      rw [List.filterMap_cons, hf _ List.mem_cons_self hx, List.lookup_cons, hne]
      exact ih hk' fun e he => hf e (List.mem_cons_of_mem _ he)

variable [DecidableEq H]

/-- What a flush writes at one handle. -/
def flushedAt (m : UsageMap H) (handle : H) : List (List String) :=
  (m.flush.filter fun w => w.1 = handle).map Prod.snd

theorem flushedAt_eq_filterMap (m : UsageMap H) (handle : H) :
    m.flushedAt handle = m.entries.filterMap fun e =>
      if e.2.handle = some handle ∧ e.2.referrers ≠ [] then some e.2.referrers else none := by
  unfold flushedAt flush
  induction m.entries with
  | nil => rfl
  | cons e rest ih =>
    rw [List.filterMap_cons, List.filterMap_cons]
    obtain ⟨s, u⟩ := e
    cases hh : u.handle with
    | none => simpa [hh] using ih
    | some h =>
      cases hr : u.referrers with
      | nil => simpa [hh, hr] using ih
      | cons r rs =>
        by_cases he : h = handle
        · simpa [hh, hr, he] using ih
        · simpa [hh, hr, he] using ih

/-- **A flush at a handle** to which one symbol alone is bound: the referrers of that symbol, once,
    unless there are none. -/
theorem flushedAt_bound {m : UsageMap H} (hm : m.Sound) {x : String} {handle : H}
    (hx : m.handle? x = some handle) (hone : ∀ y, m.handle? y = some handle → y = x) :
    m.flushedAt handle = if m.referrers x = [] then [] else [m.referrers x] := by
  rw [flushedAt_eq_filterMap, filterMap_of_nodup_keys (x := x) hm.distinct]
  · unfold handle? find? at hx
    unfold referrers find?
    cases hl : m.entries.lookup x with
    | none => rw [hl] at hx; cases hx
    | some u =>
      rw [hl] at hx
      have hu : u.handle = some handle := hx
      by_cases hr : u.referrers = [] <;> simp [hu, hr]
  · rintro ⟨s, u⟩ he hs
    have hl : m.entries.lookup s = some u := lookup_of_mem hm.distinct he
    refine if_neg fun ⟨hu, _⟩ => hs (hone s ?_)
    unfold handle? find?
    rw [hl]
    exact hu

/-- A flush writes nothing at a handle to which no symbol is bound. -/
theorem flushedAt_unbound {m : UsageMap H} (hm : m.Sound) {handle : H}
    (hnone : ∀ y, m.handle? y ≠ some handle) : m.flushedAt handle = [] := by
  rw [flushedAt_eq_filterMap]
  refine List.filterMap_eq_nil_iff.mpr ?_
  rintro ⟨s, u⟩ he
  have hl : m.entries.lookup s = some u := lookup_of_mem hm.distinct he
  refine if_neg fun ⟨hu, _⟩ => hnone s ?_
  unfold handle? find?
  rw [hl]
  exact hu

end UsageMap

end GrammarManual
