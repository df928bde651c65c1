import GrammarManual.Proofs.UsageMap
import GrammarManual.Usage.Shelf
import Mathlib.Data.List.Induction

/-!
# Proofs/Shelf: a shelf holds the map that heeds its requests

* `UsageMap.update_of_mem`, `UsageMap.update_of_notMem` -- an update, read as a map over the entries;
* `Shelf.Apart` -- the invariant of a shelf at work: every symbol has a set of its own, and no set
  that was handed out is one of these;
* `Shelf.toMap_serve`, **`Shelf.toMap_after`** -- so a shelf serves requests as the map that it holds
  heeds them, whatever is done to sets that were handed out;
* `Shelf.flushFrom_eq`, `Shelf.answer_congr` -- what a shelf answers is a matter of that map.
-/

namespace GrammarManual

variable {H : Type}

/-! ## 1. Entries -/

namespace UsageMap

theorem update_of_notMem {symbol : String} (f : Usage H → Usage H)
    {entries : List (String × Usage H)} (h : symbol ∉ entries.map Prod.fst) :
    update symbol f entries = entries ++ [(symbol, f {})] := by
  induction entries with
  | nil => rfl
  | cons e rest ih =>
    obtain ⟨hne, hrest⟩ := not_or.mp fun hm => h (List.mem_cons.mpr hm)
    rw [update, if_neg fun he => hne he.symm, ih hrest, List.cons_append]

theorem update_of_mem {symbol : String} (f : Usage H → Usage H)
    {entries : List (String × Usage H)} (hk : (entries.map Prod.fst).Nodup)
    (h : symbol ∈ entries.map Prod.fst) :
    update symbol f entries = entries.map fun e => if e.1 = symbol then (e.1, f e.2) else e := by
  induction entries with
  | nil => cases h
  | cons e rest ih =>
    obtain ⟨hnot, hk'⟩ := List.nodup_cons.mp hk
    rw [update, List.map_cons]
    by_cases he : e.1 = symbol
    · rw [if_pos he, if_pos he]
      congr 1
      -- the symbol does not come again
      refine (List.map_id rest).symm.trans (List.map_congr_left fun x hx => ?_)
      refine (if_neg fun hxs => hnot ?_).symm
      rw [he, ← hxs]
      exact List.mem_map_of_mem hx
    · rw [if_neg he, if_neg he, ih hk' ((List.mem_cons.mp h).resolve_left fun hs => he hs.symm)]

/-- Once a symbol is mentioned, an update changes what is there. -/
theorem update_update_id (symbol : String) (f : Usage H → Usage H)
    (entries : List (String × Usage H)) :
    update symbol f (update symbol id entries) = update symbol f entries := by
  induction entries with
  | nil => simp [update]
  | cons e rest ih =>
    by_cases he : e.1 = symbol
    · simp [update, he]
    · simp [update, he, ih]

end UsageMap

theorem isSome_lookup {α : Type} {entries : List (String × α)} {symbol : String} :
    (entries.lookup symbol).isSome = true ↔ symbol ∈ entries.map Prod.fst := by
  simp

/-! ## 2. Sets that stand apart -/

namespace Shelf

/-- The places of the map's own sets. -/
def places (l : Shelf H) : List Nat := l.slots.map fun e => e.2.place

/-- **The invariant of a shelf at work**: every symbol has one slot, every slot a set of its own, and
    no set that was handed out is one of these. -/
structure Apart (l : Shelf H) : Prop where
  symbols : (l.slots.map Prod.fst).Nodup
  distinct : (l.places ++ l.handed).Nodup
  standing : ∀ place ∈ l.places ++ l.handed, place < l.sets.length

theorem setAt_change (l : Shelf H) (f : List String → List String) {place other : Nat}
    (h : other < l.sets.length) :
    (l.change place f).setAt other = if place = other then f (l.setAt other) else l.setAt other := by
  unfold setAt change
  rw [List.getD_eq_getElem?_getD, List.getD_eq_getElem?_getD, List.getElem?_modify,
    List.getElem?_eq_getElem h]
  split <;> rfl

theorem setAt_append (l : Shelf H) (more : List (List String)) (slots : List (String × Slot H))
    (handed : List Nat) {place : Nat} (h : place < l.sets.length) :
    Shelf.setAt ⟨l.sets ++ more, slots, handed⟩ place = l.setAt place := by
  unfold setAt
  rw [List.getD_eq_getElem?_getD, List.getD_eq_getElem?_getD, List.getElem?_append_left h]

theorem keys_toMap (l : Shelf H) : l.toMap.entries.map Prod.fst = l.slots.map Prod.fst := by
  unfold toMap
  rw [List.map_map]
  rfl

theorem Apart.lt {l : Shelf H} (h : l.Apart) {e : String × Slot H} (he : e ∈ l.slots) :
    e.2.place < l.sets.length :=
  h.standing _ (List.mem_append_left _ (List.mem_map_of_mem he))

/-- What a shelf holds of a symbol is what its map knows. -/
theorem referrers_toMap (l : Shelf H) (symbol : String) :
    l.toMap.referrers symbol = l.referrers symbol := by
  unfold UsageMap.referrers UsageMap.find? referrers toMap
  induction l.slots with
  | nil => rfl
  | cons e rest ih =>
    rw [List.map_cons, List.lookup_cons, List.lookup_cons]
    cases symbol == e.1 with
    | true => rfl
    | false => exact ih

/-! ## 3. Requests -/

/-- A set put up behind all others stands apart from them. -/
theorem Apart.extend {l l' : Shelf H} (h : l.Apart) {set : List String}
    (hsets : l'.sets = l.sets ++ [set])
    (hplaces : (l'.places ++ l'.handed).Perm (l.sets.length :: (l.places ++ l.handed)))
    (hsymbols : (l'.slots.map Prod.fst).Nodup) : l'.Apart where
  symbols := hsymbols
  distinct := by
    have hfresh : l.sets.length ∉ l.places ++ l.handed := fun hm =>
      Nat.lt_irrefl _ (h.standing _ hm)
    exact hplaces.nodup_iff.mpr (List.nodup_cons.mpr ⟨hfresh, h.distinct⟩)
  standing place hplace := by
    rw [hsets, List.length_append, List.length_singleton]
    rcases List.mem_cons.mp (hplaces.mem_iff.mp hplace) with rfl | hold
    · exact Nat.lt_succ_self _
    · exact Nat.lt_succ_of_lt (h.standing _ hold)

theorem Apart.mention {l : Shelf H} (h : l.Apart) (symbol : String) : (l.mention symbol).Apart := by
  unfold Shelf.mention
  split
  · exact h
  · rename_i hnew
    have hnot : symbol ∉ l.slots.map Prod.fst := fun hm => hnew (isSome_lookup.mpr hm)
    refine h.extend rfl ?_ ?_
    · unfold places
      rw [List.map_append, List.append_assoc]
      exact List.perm_middle
    · rw [List.map_append]
      refine List.nodup_append.mpr ⟨h.symbols, List.nodup_singleton _, fun a ha b hb hab => hnot ?_⟩
      have hsymbol : b = symbol := List.mem_singleton.mp hb
      rw [← hsymbol, ← hab]
      exact ha

theorem toMap_mention {l : Shelf H} (h : l.Apart) (symbol : String) :
    (l.mention symbol).toMap = ⟨UsageMap.update symbol id l.toMap.entries⟩ := by
  unfold Shelf.mention
  split
  · rename_i hold
    have hm : symbol ∈ l.toMap.entries.map Prod.fst := by
      rw [keys_toMap]
      exact isSome_lookup.mp hold
    have hk : (l.toMap.entries.map Prod.fst).Nodup := by
      rw [keys_toMap]
      exact h.symbols
    rw [UsageMap.update_of_mem id hk hm]
    have hid : (fun e : String × Usage H => if e.1 = symbol then (e.1, id e.2) else e) = id := by
      funext e
      split <;> rfl
    rw [hid, List.map_id]
  · rename_i hnew
    have hnot : symbol ∉ l.toMap.entries.map Prod.fst := by
      rw [keys_toMap]
      exact fun hm => hnew (isSome_lookup.mpr hm)
    rw [UsageMap.update_of_notMem id hnot]
    unfold toMap
    rw [List.map_append, List.map_singleton]
    congr 2
    · refine List.map_congr_left fun e he => ?_
      rw [setAt_append l _ _ _ (h.lt he)]
    · -- the set put up for the symbol is empty
      simp [setAt]

/-- Changing a set of the map changes what is known of its symbol and of no other. -/
theorem toMap_change {l : Shelf H} (h : l.Apart) {symbol : String} {slot : Slot H}
    (hslot : l.slots.lookup symbol = some slot) (f : List String → List String) :
    (l.change slot.place f).toMap =
      ⟨UsageMap.update symbol (fun u => { u with referrers := f u.referrers }) l.toMap.entries⟩ := by
  have hmem : symbol ∈ l.slots.map Prod.fst := isSome_lookup.mp (by rw [hslot]; rfl)
  have hown : (symbol, slot) ∈ l.slots := by
    obtain ⟨above, below, hslots, -⟩ := List.lookup_eq_some_iff.mp hslot
    rw [hslots]
    exact List.mem_append_right _ List.mem_cons_self
  rw [UsageMap.update_of_mem _ (by rw [keys_toMap]; exact h.symbols) (by rw [keys_toMap]; exact hmem)]
  unfold toMap
  rw [List.map_map]
  congr 1
  refine List.map_congr_left fun e he => ?_
  -- two slots with one place are one slot
  have hsame : slot.place = e.2.place ↔ e.1 = symbol := by
    constructor
    · intro hplace
      have he' := List.inj_on_of_nodup_map (List.nodup_append.mp h.distinct).1 hown he hplace
      rw [← he']
    · intro hsymbol
      have he' := List.inj_on_of_nodup_map h.symbols hown he hsymbol.symm
      rw [← he']
  show (e.1, _) = if e.1 = symbol then _ else _
  rw [setAt_change l f (h.lt he)]
  by_cases hs : e.1 = symbol
  · rw [if_pos hs, if_pos (hsame.mpr hs)]
  · rw [if_neg hs, if_neg fun hp => hs (hsame.mp hp)]

/-- Changing a set that is not the map's leaves the map as it is. -/
theorem toMap_change_of_notMem {l : Shelf H} (h : l.Apart) {place : Nat} (hplace : place ∉ l.places)
    (f : List String → List String) : (l.change place f).toMap = l.toMap := by
  unfold toMap
  congr 1
  refine List.map_congr_left fun e he => ?_
  rw [setAt_change l f (h.lt he), if_neg]
  rintro rfl
  exact hplace (List.mem_map_of_mem he)

theorem Apart.change {l : Shelf H} (h : l.Apart) (place : Nat) (f : List String → List String) :
    (l.change place f).Apart where
  symbols := h.symbols
  distinct := h.distinct
  standing p hp := by
    show p < (l.sets.modify place f).length
    rw [List.length_modify]
    exact h.standing p hp

theorem mem_mention (l : Shelf H) (symbol : String) :
    symbol ∈ (l.mention symbol).slots.map Prod.fst := by
  unfold Shelf.mention
  split
  · rename_i hold
    exact isSome_lookup.mp hold
  · rw [List.map_append]
    exact List.mem_append_right _ (List.mem_singleton.mpr rfl)

theorem Apart.record {l : Shelf H} (h : l.Apart) (symbol referrer : String) :
    (l.record symbol referrer).Apart := by
  have hm := h.mention symbol
  unfold Shelf.record
  dsimp only
  split
  · split
    · exact hm
    · exact hm.change _ _
  · exact hm

theorem toMap_record {l : Shelf H} (h : l.Apart) (symbol referrer : String) :
    (l.record symbol referrer).toMap = l.toMap.record symbol referrer := by
  obtain ⟨slot, hslot⟩ := Option.isSome_iff_exists.mp (isSome_lookup.mpr (l.mem_mention symbol))
  unfold Shelf.record UsageMap.record
  dsimp only
  rw [hslot]
  dsimp only
  by_cases hself : symbol = referrer
  · simp only [if_pos hself]
    exact toMap_mention h symbol
  · simp only [if_neg hself]
    rw [toMap_change (h.mention symbol) hslot, toMap_mention h, UsageMap.update_update_id]

theorem Apart.bind {l : Shelf H} (h : l.Apart) (symbol : String) (handle : H) :
    (l.bind symbol handle).Apart := by
  have hm := h.mention symbol
  have hsymbols : (l.bind symbol handle).slots.map Prod.fst =
      (l.mention symbol).slots.map Prod.fst := by
    show ((l.mention symbol).slots.map _).map _ = _
    rw [List.map_map]
    refine List.map_congr_left fun e _ => ?_
    show (if _ then _ else _ : String × Slot H).1 = _
    split <;> rfl
  have hplaces : (l.bind symbol handle).places = (l.mention symbol).places := by
    show ((l.mention symbol).slots.map _).map _ = _
    rw [List.map_map]
    refine List.map_congr_left fun e _ => ?_
    show (if _ then _ else _ : String × Slot H).2.place = _
    split <;> rfl
  refine ⟨?_, ?_, ?_⟩
  · rw [hsymbols]
    exact hm.symbols
  · rw [hplaces]
    exact hm.distinct
  · rw [hplaces]
    exact hm.standing

theorem toMap_bind {l : Shelf H} (h : l.Apart) (symbol : String) (handle : H) :
    (l.bind symbol handle).toMap = l.toMap.bind symbol handle := by
  have hkeys : symbol ∈ (l.mention symbol).toMap.entries.map Prod.fst := by
    rw [keys_toMap]
    exact l.mem_mention symbol
  have hnodup : ((l.mention symbol).toMap.entries.map Prod.fst).Nodup := by
    rw [keys_toMap]
    exact (h.mention symbol).symbols
  have hmention : (l.mention symbol).toMap.entries = UsageMap.update symbol id l.toMap.entries :=
    congrArg UsageMap.entries (toMap_mention h symbol)
  unfold UsageMap.bind
  rw [← UsageMap.update_update_id, ← hmention, UsageMap.update_of_mem _ hnodup hkeys]
  unfold Shelf.bind toMap
  rw [List.map_map, List.map_map]
  congr 1
  refine List.map_congr_left fun e _ => ?_
  show ((if _ then _ else _ : String × Slot H).1, _) = if e.1 = symbol then _ else _
  by_cases hs : e.1 = symbol
  · cases hh : e.2.handle with
    | none => simp [Shelf.setAt, hs, hh]
    | some other => simp [Shelf.setAt, hs, hh]
  · simp [Shelf.setAt, hs]

theorem Apart.handOut {l : Shelf H} (h : l.Apart) (symbol : String) : (l.handOut symbol).Apart := by
  have hall : (l.handOut symbol).places ++ (l.handOut symbol).handed =
      (l.places ++ l.handed) ++ [l.sets.length] := (List.append_assoc _ _ _).symm
  refine h.extend rfl ?_ h.symbols
  rw [hall]
  exact List.perm_append_singleton _ _

theorem toMap_handOut {l : Shelf H} (h : l.Apart) (symbol : String) :
    (l.handOut symbol).toMap = l.toMap := by
  unfold toMap
  congr 1
  refine List.map_congr_left fun e he => ?_
  unfold Shelf.handOut
  rw [setAt_append l _ _ _ (h.lt he)]

theorem Apart.mentionAll {l : Shelf H} (h : l.Apart) (symbols : List String) :
    (symbols.foldl Shelf.mention l).Apart := by
  induction symbols generalizing l with
  | nil => exact h
  | cons s ss ih => exact ih (h.mention s)

theorem toMap_mentionAll {l : Shelf H} (h : l.Apart) (symbols : List String) :
    (symbols.foldl Shelf.mention l).toMap = l.toMap.seed symbols := by
  induction symbols generalizing l with
  | nil => rfl
  | cons s ss ih =>
    rw [List.foldl_cons, ih (h.mention s), toMap_mention h]
    rfl

/-- A set that was handed out is none of the map's. -/
theorem Apart.notMem_places {l : Shelf H} (h : l.Apart) {number place : Nat}
    (hplace : l.handed[number]? = some place) : place ∉ l.places := fun hm =>
  (List.nodup_append.mp h.distinct).2.2 _ hm _ (List.mem_of_getElem? hplace) rfl

/-- **A shelf serves a request as its map heeds it**, and keeps its sets apart. -/
theorem toMap_serve {l : Shelf H} (h : l.Apart) (request : UsageRequest H) :
    (l.serve request).1.Apart ∧ (l.serve request).1.toMap = l.toMap.heed request := by
  cases request with
  | seed symbols => exact ⟨h.mentionAll symbols, toMap_mentionAll h symbols⟩
  | record symbol referrer => exact ⟨h.record symbol referrer, toMap_record h symbol referrer⟩
  | bind symbol handle => exact ⟨h.bind symbol handle, toMap_bind h symbol handle⟩
  | referrers symbol => exact ⟨h.handOut symbol, toMap_handOut h symbol⟩
  | isUsed symbol => exact ⟨h, rfl⟩
  | flush => exact ⟨h, rfl⟩
  | edit number change =>
    rw [serve]
    split
    · rename_i place hplace
      exact ⟨h.change place change, toMap_change_of_notMem h (h.notMem_places hplace) change⟩
    · exact ⟨h, rfl⟩

theorem apart_fresh : ({} : Shelf H).Apart where
  symbols := List.nodup_nil
  distinct := List.nodup_nil
  standing _ := nofun

/-- **A shelf at any time**: its sets stand apart, and it holds the map that has heeded the requests
    made so far. -/
theorem toMap_after (symbols : List String) (history : List (UsageRequest H)) :
    (after symbols history).Apart ∧
      (after symbols history).toMap = history.foldl UsageMap.heed (.ofSymbols symbols) := by
  induction history using List.reverseRecOn with
  | nil => exact ⟨apart_fresh.mentionAll symbols, toMap_mentionAll apart_fresh symbols⟩
  | append_singleton history request ih =>
    have hstep : after symbols (history ++ [request]) = ((after symbols history).serve request).1 :=
      List.foldl_concat _ _ _ _
    rw [hstep, List.foldl_concat, ← ih.2]
    exact toMap_serve ih.1 request

/-- Writing slot by slot writes what the map has to flush, and counts it. -/
theorem flushFrom_eq (l : Shelf H) (written : Nat) :
    l.flushFrom written l.slots = (l.toMap.flush, written + l.toMap.flush.length) := by
  unfold toMap UsageMap.flush
  dsimp only
  induction l.slots generalizing written with
  | nil => rfl
  | cons e rest ih =>
    rw [flushFrom, List.map_cons, List.filterMap_cons]
    cases hh : e.2.handle with
    | none => exact ih written
    | some handle =>
      cases hset : (l.setAt e.2.place).isEmpty with
      | true => simpa [hh, hset] using ih written
      | false =>
        simp [ih (written + 1), Nat.add_assoc, Nat.add_comm 1]

/-- Shelves that hold the same map give the same answers. -/
theorem answer_congr {l l' : Shelf H} (h : l.toMap = l'.toMap) (request : UsageRequest H) :
    (l.serve request).2 = (l'.serve request).2 := by
  cases request with
  | seed symbols => rfl
  | record symbol referrer => rfl
  | bind symbol handle => rfl
  | referrers symbol => rw [serve, serve, ← referrers_toMap, ← referrers_toMap, h]
  | isUsed symbol => rw [serve, serve, ← referrers_toMap, ← referrers_toMap, h]
  | flush => rw [serve, serve, flushFrom_eq, flushFrom_eq, h]
  | edit number change =>
    rw [serve, serve]
    cases l.handed[number]? <;> cases l'.handed[number]? <;> rfl

end Shelf

end GrammarManual
