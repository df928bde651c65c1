import GrammarManual.Proofs.Shelf

/-!
# Proofs/UsageHistory: a usage map and what was asked of it

* `mentionedFirst`, `firstBound` -- what a history of requests says of symbols and handles;
* `UsageMap.KnownBy` -- what a map holds, as a matter of the requests that it has heeded;
* `UsageMap.KnownBy.heed`, `UsageMap.knownBy_history` -- one request keeps a map known by its
  history, and so do all of them;
* **`served_by_history`** -- what is answered at any time, by the history of requests alone.
-/

namespace GrammarManual

variable {H : Type}

/-! ## 1. Symbols and referrers -/

namespace UsageMap

theorem referrers_seed (m : UsageMap H) (symbols : List String) (x : String) :
    (m.seed symbols).referrers x = m.referrers x := by
  unfold referrers
  rw [find?_seed]
  split
  · cases m.find? x <;> rfl
  · rfl

theorem handle?_seed (m : UsageMap H) (symbols : List String) (x : String) :
    (m.seed symbols).handle? x = m.handle? x := by
  unfold handle?
  rw [find?_seed]
  split
  · cases m.find? x <;> rfl
  · rfl

/-- An update mentions its symbol. -/
theorem keys_update_of_eraseDups {entries : List (String × Usage H)} {mentioned : List String}
    (h : entries.map Prod.fst = mentioned.eraseDups) (symbol : String) (f : Usage H → Usage H) :
    (update symbol f entries).map Prod.fst = (mentioned ++ [symbol]).eraseDups := by
  have hmem : symbol ∈ entries.map Prod.fst ↔ symbol ∈ mentioned := by
    rw [h]
    exact List.mem_eraseDups
  rw [keys_update, List.eraseDups_append, h]
  by_cases hs : symbol ∈ mentioned
  · simp [hs, List.removeAll]
  · simp [hs, List.removeAll, List.eraseDups_cons]

theorem keys_seed_of_eraseDups {m : UsageMap H} {mentioned : List String}
    (h : m.entries.map Prod.fst = mentioned.eraseDups) (symbols : List String) :
    (m.seed symbols).entries.map Prod.fst = (mentioned ++ symbols).eraseDups := by
  induction symbols generalizing m mentioned with
  | nil => simpa [seed] using h
  | cons s ss ih =>
    have hstep : m.seed (s :: ss) = (UsageMap.mk (update s id m.entries)).seed ss := rfl
    rw [hstep, ih (m := ⟨update s id m.entries⟩) (keys_update_of_eraseDups h s id),
      List.append_assoc, List.singleton_append]

end UsageMap

/-! ## 2. Histories -/

/-- The symbols that were mentioned, in the order of first mention. -/
def mentionedFirst (symbols : List String) (history : List (UsageRequest H)) : List String :=
  (symbols ++ history.flatMap UsageRequest.mentions).eraseDups

/-- The handle to which a request binds a symbol. -/
def UsageRequest.bound? (symbol : String) : UsageRequest H → Option H
  | .bind s handle => if s = symbol then some handle else none
  | _ => none

/-- The handle to which a symbol was bound first. -/
def firstBound (history : List (UsageRequest H)) (symbol : String) : Option H :=
  history.findSome? (UsageRequest.bound? symbol)

theorem mentionedFirst_concat (symbols : List String) (history : List (UsageRequest H))
    (request : UsageRequest H) : mentionedFirst symbols (history ++ [request]) =
      ((symbols ++ history.flatMap UsageRequest.mentions) ++ request.mentions).eraseDups := by
  rw [mentionedFirst, List.flatMap_append, List.flatMap_singleton, List.append_assoc]

theorem firstBound_concat (history : List (UsageRequest H)) (request : UsageRequest H)
    (symbol : String) : firstBound (history ++ [request]) symbol =
      (firstBound history symbol).or (request.bound? symbol) := by
  rw [firstBound, List.findSome?_append, List.findSome?_singleton]
  rfl

namespace UsageMap

/-- **What a map holds, by the requests that it has heeded.** -/
structure KnownBy (symbols : List String) (history : List (UsageRequest H)) (m : UsageMap H) :
    Prop where
  sound : m.Sound
  mentioned : m.entries.map Prod.fst = mentionedFirst symbols history
  recorded : ∀ s r, r ∈ m.referrers s ↔ r ≠ s ∧ .record s r ∈ history
  bound : ∀ s, m.handle? s = firstBound history s

variable {symbols : List String} {history : List (UsageRequest H)} {m : UsageMap H}

/-- A request that notes nothing leaves a map known as it was. -/
theorem KnownBy.look (h : m.KnownBy symbols history) {request : UsageRequest H}
    (hmentions : request.mentions = []) (hrecords : ∀ s r, request ≠ .record s r)
    (hbinds : ∀ s, request.bound? s = none) : m.KnownBy symbols (history ++ [request]) where
  sound := h.sound
  mentioned := by
    rw [mentionedFirst_concat, hmentions, List.append_nil]
    exact h.mentioned
  recorded s r := by
    rw [h.recorded, List.mem_append, List.mem_singleton, or_iff_left fun he => hrecords s r he.symm]
  bound s := by
    rw [firstBound_concat, hbinds, Option.or_none]
    exact h.bound s

theorem KnownBy.seed (h : m.KnownBy symbols history) (more : List String) :
    (m.seed more).KnownBy symbols (history ++ [.seed more]) where
  sound := h.sound.seed more
  mentioned := by
    rw [mentionedFirst_concat]
    exact keys_seed_of_eraseDups h.mentioned more
  recorded s r := by
    rw [referrers_seed, h.recorded]
    simp
  bound s := by
    rw [handle?_seed, h.bound, firstBound_concat]
    exact Option.or_none.symm

theorem KnownBy.record (h : m.KnownBy symbols history) (symbol referrer : String) :
    (m.record symbol referrer).KnownBy symbols (history ++ [.record symbol referrer]) where
  sound := h.sound.record symbol referrer
  mentioned := by
    rw [mentionedFirst_concat]
    exact keys_update_of_eraseDups h.mentioned symbol _
  recorded s r := by
    rw [mem_referrers_record, h.recorded, List.mem_append, List.mem_singleton,
      UsageRequest.record.injEq]
    constructor
    · rintro (⟨hne, hold⟩ | ⟨rfl, hne, rfl⟩)
      · exact ⟨hne, .inl hold⟩
      · exact ⟨Ne.symm hne, .inr ⟨rfl, rfl⟩⟩
    · rintro ⟨hne, hold | ⟨rfl, rfl⟩⟩
      · exact .inl ⟨hne, hold⟩
      · exact .inr ⟨rfl, Ne.symm hne, rfl⟩
  bound s := by
    rw [handle?_record, h.bound, firstBound_concat]
    exact Option.or_none.symm

theorem KnownBy.bind (h : m.KnownBy symbols history) (symbol : String) (handle : H) :
    (m.bind symbol handle).KnownBy symbols (history ++ [.bind symbol handle]) where
  sound := h.sound.bind symbol handle
  mentioned := by
    rw [mentionedFirst_concat]
    exact keys_update_of_eraseDups h.mentioned symbol _
  recorded s r := by
    rw [referrers_bind, h.recorded]
    simp
  bound s := by
    rw [handle?_bind, h.bound, firstBound_concat, UsageRequest.bound?]
    by_cases hs : s = symbol
    · subst hs
      cases firstBound history s <;> simp
    · have hs' : ¬ symbol = s := fun he => hs he.symm
      simp [hs, hs']

/-- **A request keeps a map known by its history.** -/
theorem KnownBy.heed (h : m.KnownBy symbols history) (request : UsageRequest H) :
    (m.heed request).KnownBy symbols (history ++ [request]) := by
  cases request with
  | seed more => exact h.seed more
  | record symbol referrer => exact h.record symbol referrer
  | bind symbol handle => exact h.bind symbol handle
  | referrers symbol => exact h.look rfl (fun _ _ => nofun) fun _ => rfl
  | isUsed symbol => exact h.look rfl (fun _ _ => nofun) fun _ => rfl
  | flush => exact h.look rfl (fun _ _ => nofun) fun _ => rfl
  | edit number change => exact h.look rfl (fun _ _ => nofun) fun _ => rfl

/-- A map is known by the history of its requests. -/
theorem knownBy_history (symbols : List String) (history : List (UsageRequest H)) :
    (history.foldl heed (ofSymbols symbols)).KnownBy symbols history := by
  induction history using List.reverseRecOn with
  | nil =>
    refine ⟨Sound.empty.seed symbols, ?_, fun s r => ?_, handle?_ofSymbols symbols⟩
    · have hnone : (empty : UsageMap H).entries.map Prod.fst = ([] : List String).eraseDups := rfl
      rw [mentionedFirst, List.flatMap_nil, List.append_nil]
      exact keys_seed_of_eraseDups hnone symbols
    · rw [List.foldl_nil, referrers_ofSymbols]
      simp
  | append_singleton history request ih =>
    rw [List.foldl_concat]
    exact ih.heed request

/-- What a map flushes, symbol by symbol. -/
theorem Sound.flush_eq (h : m.Sound) :
    m.flush = (m.entries.map Prod.fst).filterMap fun s =>
      (m.handle? s).bind fun handle =>
        if m.referrers s = [] then none else some (handle, m.referrers s) := by
  rw [List.filterMap_map]
  refine List.filterMap_congr fun e he => ?_
  have hfind : m.find? e.1 = some e.2 := lookup_of_mem h.distinct he
  simp only [Function.comp_apply, handle?, referrers, hfind, Option.bind_some, Option.elim_some]
  cases e.2.handle with
  | none => rfl
  | some handle => simp

end UsageMap

/-! ## 3. Answers -/

/-- **What a usage map answers, by the history of requests alone.** With `sets s` for the rules other
    than `s` that were recorded for `s`, sorted by code point: this set is what is told of `s`; `s` is
    used if it is not empty; and a flush writes it at the handle to which `s` was bound first, once
    for every symbol that has a handle and such a set, in the order of first mention. A flush tells
    how many it wrote and changes nothing. Sets that were handed out may be changed at any time: all
    later answers stay the same. -/
theorem served_by_history (symbols : List String) (history : List (UsageRequest H)) :
    ∃ sets : String → List String,
      (∀ s, (sets s).Pairwise (· < ·) ∧
        ∀ r, r ∈ sets s ↔ r ≠ s ∧ UsageRequest.record s r ∈ history) ∧
      (∀ s, ((Shelf.after symbols history).serve (.referrers s)).2 = .names (sets s)) ∧
      (∀ s, ((Shelf.after symbols history).serve (.isUsed s)).2 = .truth (sets s ≠ [])) ∧
      (∀ s, (Shelf.after symbols history).toMap.handle? s = firstBound history s) ∧
      (let blocks := (mentionedFirst symbols history).filterMap fun s =>
        (firstBound history s).bind fun handle =>
          if sets s = [] then none else some (handle, sets s)
      (Shelf.after symbols history).serve .flush =
        (Shelf.after symbols history, .written blocks blocks.length)) ∧
      (∀ number change later request,
        ((Shelf.after symbols (history ++ .edit number change :: later)).serve request).2 =
          ((Shelf.after symbols (history ++ later)).serve request).2) ∧
      (Shelf.after symbols history).toMap =
        history.foldl UsageMap.heed (UsageMap.ofSymbols symbols) := by
  obtain ⟨-, hmap⟩ := Shelf.toMap_after symbols history
  have hknown := UsageMap.knownBy_history symbols history
  rw [← hmap] at hknown
  refine ⟨(Shelf.after symbols history).toMap.referrers,
    fun s => ⟨hknown.sound.sorted s, hknown.recorded s⟩, fun s => ?_, fun s => ?_, hknown.bound, ?_,
    fun number change later request => Shelf.answer_congr ?_ request, hmap⟩
  · rw [Shelf.referrers_toMap]
    rfl
  · rw [Shelf.referrers_toMap, Shelf.serve]
    cases (Shelf.after symbols history).referrers s <;> rfl
  · rw [Shelf.serve, Shelf.flushFrom_eq, hknown.sound.flush_eq, hknown.mentioned]
    simp only [hknown.bound, Nat.zero_add]
  · rw [(Shelf.toMap_after symbols _).2, (Shelf.toMap_after symbols _).2, List.foldl_append,
      List.foldl_append]
    rfl

-- emptying a set that was handed out takes nothing from what is flushed
example : ((Shelf.after ["b"] [.record "b" "c", .record "b" "a", .referrers "b",
    .edit 0 fun _ => [], .bind "b" 7]).serve .flush).2 = .written [(7, ["a", "c"])] 1 := by
  decide

end GrammarManual
