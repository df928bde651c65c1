import GrammarManual.Files.Write

/-!
# Proofs/FileWrites: what writing a file changes

* `Utf8.encode_toList` -- the bytes that are written are those of the text in UTF-8;
* `FileTree.IsPlace` -- a place with folders above it that holds no link; paths lead to such places
  only, over links and all (`FileTree.reach_isPlace`);
* `FileTree.reach_kept` -- they lead to the same places where folders and links are kept;
* `FileTree.entryAt?_set_file` -- a file that is set there is all that changes;
* **`FileTree.write_eq_ok`** -- a text that is written lies at its path (`Written`), and every other
  place is as it was.
-/

namespace GrammarManual

/-! ## 1. Bytes -/

namespace Utf8

theorem encodeChar_eq (c : Char) : encodeChar c = String.utf8EncodeChar c := by
  have hrange : c.toNat < 1114112 := by
    rcases c.valid with h | h
    · exact Nat.lt_trans h (by decide)
    · exact h.2
  unfold encodeChar String.utf8EncodeChar
  simp only [Char.toNat_val, Nat.div_one, Nat.add_comm 128]
  generalize c.toNat = n at hrange ⊢
  by_cases h1 : n < 128
  · rw [if_pos h1, if_pos (by omega)]
  by_cases h2 : n < 2048
  · have hlead : 192 + n / 64 = n / 64 % 32 + 192 := by omega
    rw [if_neg h1, if_pos h2, if_neg (by omega), if_pos (by omega), hlead]
  by_cases h3 : n < 65536
  · have hlead : 224 + n / 4096 = n / 4096 % 16 + 224 := by omega
    rw [if_neg h1, if_neg h2, if_pos h3, if_neg (by omega), if_neg (by omega), if_pos (by omega),
      hlead]
  · have hlead : 240 + n / 262144 = n / 262144 % 8 + 240 := by omega
    rw [if_neg h1, if_neg h2, if_neg h3, if_neg (by omega), if_neg (by omega), if_neg (by omega),
      hlead]

/-- **The bytes of a text** are those that a string has in UTF-8. -/
theorem encode_toList (s : String) : encode s.toList = s.toUTF8.data.toList := by
  have hbytes : s.toUTF8 = (s.toList.flatMap String.utf8EncodeChar).toByteArray :=
    String.utf8Encode_toList.symm
  rw [hbytes, List.data_toByteArray, encode, funext encodeChar_eq]

end Utf8

/-! ## 2. Places -/

namespace FileTree

variable {t t' : FileTree} {place : List String}

/-- A folder is there wherever the working directory or something above it is. -/
theorem entryAt?_above_here (h : place.isPrefixOf t.here = true) :
    t.entryAt? place = some .folder := if_pos h

/-- **A place that paths lead to**: everything above it is a folder, and it holds no link. -/
structure IsPlace (t : FileTree) (place : List String) : Prop where
  above : ∀ above, above <+: place → above ≠ place → t.entryAt? above = some .folder
  noLink : ∀ target, t.entryAt? place ≠ some (.link target)

theorem isPlace_root (t : FileTree) : t.IsPlace [] where
  above _ h hne := absurd (List.prefix_nil.mp h) hne
  noLink target := by
    rw [entryAt?_above_here (List.isPrefixOf_iff_prefix.mpr (List.nil_prefix))]
    nofun

theorem IsPlace.concat (h : t.IsPlace place) (hfolder : t.entryAt? place = some .folder)
    {part : String} (hlink : ∀ target, t.entryAt? (place ++ [part]) ≠ some (.link target)) :
    t.IsPlace (place ++ [part]) where
  above above habove hne := by
    rcases List.prefix_concat_iff.mp habove with rfl | habove
    · exact absurd rfl hne
    · by_cases heq : above = place
      · rw [heq]
        exact hfolder
      · exact h.above above habove heq
  noLink := hlink

theorem IsPlace.dropLast (h : t.IsPlace place) : t.IsPlace place.dropLast := by
  by_cases hroot : place = []
  · rw [hroot]
    exact isPlace_root t
  have hshorter : place.dropLast ≠ place := by
    intro heq
    have hlength := congrArg List.length heq
    have hpos := List.length_pos_iff.mpr hroot
    rw [List.length_dropLast] at hlength
    omega
  have habove : ∀ above, above <+: place.dropLast → t.entryAt? above = some .folder := by
    intro above habove
    refine h.above above (habove.trans (List.dropLast_prefix place)) ?_
    rintro rfl
    exact hshorter (habove.eq_of_length_le (by rw [List.length_dropLast]; omega)).symm
  refine ⟨fun above hprefix _ => habove above hprefix, fun target => ?_⟩
  rw [habove _ List.prefix_rfl]
  nofun

section Jump

variable {jump jump' : List String → List String → Except Astray (List String)}
  {start parts : List String} {part : String}

/-- **One part of a path that leads on**: up, over a link, or down. -/
theorem followWith_cons_ok (h : t.followWith jump start (part :: parts) = .ok place) :
    t.entryAt? start = some .folder ∧
      ((part = ".." ∧ t.followWith jump start.dropLast parts = .ok place) ∨
        part ≠ ".." ∧
          ((∃ target, t.entryAt? (start ++ [part]) = some (.link target) ∧
              jump (if target.isAbsolute then [] else start) (target.parts ++ parts) = .ok place) ∨
            (∀ target, t.entryAt? (start ++ [part]) ≠ some (.link target)) ∧
              t.followWith jump (start ++ [part]) parts = .ok place)) := by
  rw [followWith] at h
  split at h
  · cases h
  · rename_i hfolder
    refine ⟨hfolder, ?_⟩
    by_cases hup : part = ".."
    · rw [if_pos hup] at h
      exact .inl ⟨hup, h⟩
    · rw [if_neg hup] at h
      refine .inr ⟨hup, ?_⟩
      split at h
      · rename_i target hlink
        exact .inl ⟨target, hlink, h⟩
      · rename_i hlink
        exact .inr ⟨hlink, h⟩
  · cases h

/-- A path leads from place to place, if jumps do. -/
theorem followWith_isPlace
    (hjump : ∀ start parts place, t.IsPlace start → jump start parts = .ok place → t.IsPlace place)
    (h : t.IsPlace start) (hplace : t.followWith jump start parts = .ok place) :
    t.IsPlace place := by
  induction parts generalizing start with
  | nil =>
    cases hplace
    exact h
  | cons part parts ih =>
    obtain ⟨hfolder, ⟨-, hup⟩ | ⟨-, ⟨target, -, hover⟩ | ⟨hlink, hdown⟩⟩⟩ :=
      followWith_cons_ok hplace
    · exact ih h.dropLast hup
    · refine hjump _ _ place ?_ hover
      split
      · exact isPlace_root t
      · exact h
    · exact ih (h.concat hfolder hlink) hdown

/-- Whether a tree has kept the folders and the links of another, and has no other links. -/
structure KeepsWays (t t' : FileTree) : Prop where
  folder : ∀ q, t.entryAt? q = some .folder → t'.entryAt? q = some .folder
  link : ∀ q target, t'.entryAt? q = some (.link target) ↔ t.entryAt? q = some (.link target)

/-- A path leads to the same place where folders and links are kept, if jumps do. -/
theorem followWith_kept (hkept : t.KeepsWays t')
    (hjump : ∀ start parts place, jump start parts = .ok place → jump' start parts = .ok place)
    (hplace : t.followWith jump start parts = .ok place) :
    t'.followWith jump' start parts = .ok place := by
  induction parts generalizing start with
  | nil => exact hplace
  | cons part parts ih =>
    obtain ⟨hfolder, hway⟩ := followWith_cons_ok hplace
    rw [followWith, hkept.folder start hfolder]
    dsimp only
    rcases hway with ⟨hpart, hup⟩ | ⟨hpart, ⟨target, hlink, hover⟩ | ⟨hlink, hdown⟩⟩
    · rw [if_pos hpart]
      exact ih hup
    · rw [if_neg hpart, (hkept.link _ target).mpr hlink]
      exact hjump _ _ place hover
    · rw [if_neg hpart]
      split
      · rename_i target hlink'
        exact absurd ((hkept.link _ target).mp hlink') (hlink target)
      · exact ih hdown

end Jump

theorem follow_isPlace (links : Nat) {start parts : List String} (h : t.IsPlace start)
    (hplace : t.follow links start parts = .ok place) : t.IsPlace place := by
  induction links generalizing start parts place with
  | zero => exact followWith_isPlace (fun _ _ _ _ herror => by cases herror) h hplace
  | succ links ih => exact followWith_isPlace (fun _ _ _ hstart => ih hstart) h hplace

theorem follow_kept (hkept : t.KeepsWays t') (links : Nat) {start parts : List String}
    (hplace : t.follow links start parts = .ok place) :
    t'.follow links start parts = .ok place := by
  induction links generalizing start parts place with
  | zero => exact followWith_kept hkept (fun _ _ _ herror => by cases herror) hplace
  | succ links ih => exact followWith_kept hkept (fun _ _ _ => ih) hplace

/-- **A path leads to a place.** Only its last part need not be there. -/
theorem reach_isPlace {p : Path} (h : t.reach p = .ok place) : t.IsPlace place :=
  follow_isPlace linkLimit (isPlace_root t) h

/-- **A path leads to the same place** in a tree that has kept its folders and links. -/
theorem reach_kept {p : Path} (hkept : t.KeepsWays t') (hhere : t'.here = t.here)
    (h : t.reach p = .ok place) : t'.reach p = .ok place := by
  unfold reach fromRoot at h ⊢
  rw [hhere]
  exact follow_kept hkept linkLimit h

/-! ## 3. Entries -/

theorem lookup_filter_ne {q : List String} (hq : q ≠ place)
    (entries : List (List String × FileEntry)) :
    (entries.filter (·.1 ≠ place)).lookup q = entries.lookup q := by
  induction entries with
  | nil => rfl
  | cons e entries ih =>
    by_cases he : e.1 = place
    · have hne : (q == e.1) = false := beq_false_of_ne (he ▸ hq)
      rw [List.filter_cons_of_neg (by simpa using he), List.lookup_cons, hne]
      exact ih
    · rw [List.filter_cons_of_pos (by simpa using he), List.lookup_cons, List.lookup_cons, ih]

theorem lookup_set (t : FileTree) (place q : List String) (e : FileEntry) :
    (t.set place e).entries.lookup q = if q = place then some e else t.entries.lookup q := by
  unfold set
  rw [List.lookup_cons]
  by_cases hq : q = place
  · rw [if_pos hq, beq_iff_eq.mpr hq]
  · rw [if_neg hq, beq_false_of_ne hq]
    exact lookup_filter_ne hq t.entries

/-- What lies below a place that is not above the place that is set is as it was. -/
theorem any_set {q : List String} (hq : ¬q <+: place) (t : FileTree) (e : FileEntry) :
    (t.set place e).entries.any (fun entry => q.isPrefixOf entry.1) =
      t.entries.any fun entry => q.isPrefixOf entry.1 := by
  unfold set
  rw [Bool.eq_iff_iff, List.any_eq_true, List.any_eq_true]
  simp only [List.mem_cons, List.mem_filter, decide_eq_true_eq, List.isPrefixOf_iff_prefix]
  constructor
  · rintro ⟨entry, rfl | ⟨hentry, -⟩, hbelow⟩
    · exact absurd hbelow hq
    · exact ⟨entry, hentry, hbelow⟩
  · rintro ⟨entry, hentry, hbelow⟩
    exact ⟨entry, .inr ⟨hentry, fun heq => hq (heq ▸ hbelow)⟩, hbelow⟩

/-- **A file that is set at a place is all that changes.** -/
theorem entryAt?_set_file (h : t.IsPlace place) (hplace : t.entryAt? place ≠ some .folder)
    (bytes : List UInt8) (q : List String) :
    (t.set place (.file bytes)).entryAt? q =
      if q = place then some (.file bytes) else t.entryAt? q := by
  by_cases hhere : q.isPrefixOf t.here = true
  · have hq : q ≠ place := by
      rintro rfl
      exact hplace (entryAt?_above_here hhere)
    rw [if_neg hq, entryAt?_above_here hhere]
    exact entryAt?_above_here hhere
  have hhere' : ¬ q.isPrefixOf (t.set place (.file bytes)).here = true := hhere
  by_cases hq : q = place
  · rw [if_pos hq, entryAt?, if_neg hhere', lookup_set, if_pos hq]
  rw [if_neg hq]
  by_cases habove : q <+: place
  · -- a folder above the place was there, listed or not, and still is
    have hfolder := h.above q habove hq
    rw [hfolder]
    unfold entryAt? at hfolder ⊢
    rw [if_neg hhere] at hfolder
    rw [if_neg hhere', lookup_set, if_neg hq]
    split at hfolder
    · exact hfolder
    · exact if_pos (List.any_eq_true.mpr
        ⟨(place, FileEntry.file bytes), List.mem_cons_self, List.isPrefixOf_iff_prefix.mpr habove⟩)
  · rw [entryAt?, entryAt?, if_neg hhere, if_neg hhere', lookup_set, if_neg hq, any_set habove]

/-- A file that is set at a place leaves all folders and links. -/
theorem keepsWays_set_file (h : t.IsPlace place) (hplace : t.entryAt? place ≠ some .folder)
    (bytes : List UInt8) : t.KeepsWays (t.set place (.file bytes)) where
  folder q hq := by
    rw [entryAt?_set_file h hplace, if_neg (by rintro rfl; exact hplace hq)]
    exact hq
  link q target := by
    rw [entryAt?_set_file h hplace]
    by_cases hq : q = place
    · rw [if_pos hq, hq]
      exact ⟨nofun, fun hlink => absurd hlink (h.noLink target)⟩
    · rw [if_neg hq]

/-! ## 4. Writing -/

theorem placeOf_eq_ok {p : Path} (h : t.placeOf p = .ok place) :
    t.reach p = .ok place ∧ t.entryAt? place ≠ some .folder := by
  unfold placeOf at h
  split at h
  · cases h
  · split at h
    · cases h
    · rename_i hreach
      split at h
      · cases h
      · rename_i hfolder
        cases h
        exact ⟨hreach, hfolder⟩

/-- Whether a text lies at a path, byte for byte as its UTF-8 form, and every place but the one
    that the path leads to is as it was before. -/
structure Written (before after : FileTree) (p : Path) (text : String) : Prop where
  found : after.lookup p = some (.file text.toUTF8.data.toList)
  kept : ∃ place, before.placeOf p = .ok place ∧
    ∀ other, other ≠ place → after.entryAt? other = before.entryAt? other
  here : after.here = before.here
  refusals : after.refusals = before.refusals

theorem Written.text_eq {p : Path} {text other : String} (h : t.Written t' p text)
    (hother : t.Written t' p other) : text = other := by
  have hbytes : text.toUTF8.data.toList = other.toUTF8.data.toList :=
    FileEntry.file.inj (Option.some.inj (h.found.symm.trans hother.found))
  exact String.toByteArray_inj.mp (ByteArray.ext (Array.toList_inj.mp hbytes))

/-- **A text that is written** lies at its path, and nothing else has changed. -/
theorem write_eq_ok {p : Path} {text : String} (h : t.write p text = .ok t') :
    t.Written t' p text := by
  unfold write at h
  cases hplace : t.placeOf p with
  | error e =>
    rw [hplace] at h
    cases h
  | ok place =>
    rw [hplace, Utf8.encode_toList] at h
    cases h
    obtain ⟨hreach, hfolder⟩ := placeOf_eq_ok hplace
    have hisPlace := reach_isPlace hreach
    have hentry := entryAt?_set_file hisPlace hfolder text.toUTF8.data.toList
    have hreach' := reach_kept (keepsWays_set_file hisPlace hfolder text.toUTF8.data.toList) rfl
      hreach
    refine ⟨?_, ⟨place, hplace, fun other hother => ?_⟩, rfl, rfl⟩
    · unfold lookup
      rw [hreach']
      exact (hentry place).trans (if_pos rfl)
    · rw [hentry, if_neg hother]

end FileTree

end GrammarManual
