import GrammarManual.Proofs.Consumed
import GrammarManual.Proofs.Spelling

/-!
# Proofs/Reading: what readers make of spelled tokens

* `Reader.Reads`, `Reader.Fails` -- what a reader does at one place of a text; one lemma for each
  way to build a reader;
* `Steps`, `Spelled` -- texts that spell tokens, with a gap before each;
* `Reader.Takes`, `Reader.Refuses` -- the same for all spellings of some tokens at once;
* `Reader.Needs` -- a reader that only reads what begins with certain characters refuses every
  other token.
-/

namespace GrammarManual.G4

variable {α β : Type} {N : Nat}

namespace Reader

/-! ## 1. At one place -/

/-- In a text of `N` characters, begun where `s` is ahead, a reader gives a value and ends where
    `s'` is ahead. -/
def Reads (N : Nat) (p : Reader α) (s : List Char) (a : α) (s' : List Char) : Prop :=
  (p (placeAt N s)).result = some (a, placeAt N s')

/-- In a text of `N` characters, a reader fails where `s` is ahead. -/
def Fails (N : Nat) (p : Reader α) (s : List Char) : Prop := (p (placeAt N s)).result = none

theorem reads_pure (a : α) (s : List Char) : Reads N (Pure.pure a : Reader α) s a s := rfl

theorem Reads.bind {p : Reader α} {f : α → Reader β} {s s' s'' : List Char} {a : α} {b : β}
    (hp : Reads N p s a s') (hf : Reads N (f a) s' b s'') : Reads N (p >>= f) s b s'' := by
  unfold Reads at hp
  rw [Reads, result_bind, hp]
  exact hf

theorem Fails.bind {p : Reader α} {f : α → Reader β} {s : List Char} (hp : Fails N p s) :
    Fails N (p >>= f) s := by
  unfold Fails at hp
  rw [Fails, result_bind, hp]
  rfl

theorem Reads.bind_fails {p : Reader α} {f : α → Reader β} {s s' : List Char} {a : α}
    (hp : Reads N p s a s') (hf : Fails N (f a) s') : Fails N (p >>= f) s := by
  unfold Reads at hp
  rw [Fails, result_bind, hp]
  exact hf

theorem Reads.or {p q : Reader α} {s s' : List Char} {a : α} (hp : Reads N p s a s') :
    Reads N (p.or q) s a s' := by
  unfold Reads at hp
  rw [Reads, result_or, hp]
  rfl

/-- Where the first reader fails, the second one counts. -/
theorem Fails.or {p q : Reader α} {s : List Char} (hp : Fails N p s) :
    (p.or q (placeAt N s)).result = (q (placeAt N s)).result := by
  unfold Fails at hp
  rw [result_or, hp]
  rfl

theorem Reads.optional {p : Reader α} {s s' : List Char} {a : α} (hp : Reads N p s a s') :
    Reads N p.optional s (some a) s' :=
  Reads.or (hp.bind (reads_pure (some a) s'))

theorem Fails.optional {p : Reader α} {s : List Char} (hp : Fails N p s) :
    Reads N p.optional s none s := by
  have hfirst : Fails N (p >>= fun a => Pure.pure (some a)) s := hp.bind
  exact hfirst.or.trans (reads_pure none s)

theorem Fails.upTo {p : Reader α} {s : List Char} (hp : Fails N p s) (n : Nat) :
    Reads N (upTo p n) s [] s := by
  cases n with
  | zero => exact reads_pure [] s
  | succ n => exact hp.optional.bind (reads_pure [] s)

theorem Reads.upTo {p : Reader α} {s s' s'' : List Char} {a : α} {as : List α} {n : Nat}
    (hp : Reads N p s a s') (hmore : Reads N (Reader.upTo p n) s' as s'') :
    Reads N (Reader.upTo p (n + 1)) s (a :: as) s'' :=
  hp.optional.bind (hmore.bind (reads_pure (a :: as) s''))

theorem Reads.ahead {p : Reader α} {s s' : List Char} {a : α} (hp : Reads N p s a s') :
    Reads N (Reader.ahead p) s true s := by
  unfold Reads at hp
  show some ((p (placeAt N s)).result.isSome, placeAt N s) = _
  rw [hp]
  rfl

theorem Fails.ahead {p : Reader α} {s : List Char} (hp : Fails N p s) :
    Reads N (Reader.ahead p) s false s := by
  unfold Fails at hp
  show some ((p (placeAt N s)).result.isSome, placeAt N s) = _
  rw [hp]
  rfl

/-- Going over a gap changes nothing for a token. -/
theorem reads_token {scan : Scan} {gap text rest : List Char} {c : Char} {more : List Char}
    (hgap : IsGap gap) (htext : text = c :: more) (hc : isBlank c = false ∧ c ≠ '/')
    (hN : (gap ++ (text ++ rest)).length ≤ N) (hscan : scan (text ++ rest) = some (text, rest)) :
    Reads N (token scan) (gap ++ (text ++ rest)) (String.ofList text) rest := by
  have hskip : skipBlank (placeAt N (gap ++ (text ++ rest))) = placeAt N (text ++ rest) := by
    rw [skipBlank_gap hgap hN, htext]
    exact skipBlank_token hc.1 hc.2 _
  unfold Reads token
  dsimp only
  rw [hskip]
  have hscan' : scan (placeAt N (text ++ rest)).rest = some (text, rest) := hscan
  rw [hscan']
  dsimp only
  rw [List.length_append, List.length_append] at hN
  have hposition : N - (text ++ rest).length + text.length = N - rest.length := by
    rw [List.length_append]
    omega
  show some (String.ofList text, (⟨N - (text ++ rest).length + text.length, rest⟩ : Cursor)) = _
  rw [hposition]
  rfl

theorem fails_token {scan : Scan} {s : List Char}
    (h : scan (skipBlank (placeAt N s)).rest = none) : Fails N (token scan) s := by
  unfold Fails token
  dsimp only
  rw [h]

/-! ## 2. First characters -/

/-- What a reader reads begins, behind a gap, with one of some characters. -/
def Needs (p : Reader α) (kind : Char → Bool) : Prop :=
  ∀ c x, (p c).result = some x → ∃ d ∈ (skipBlank c).rest.head?, kind d = true

/-- A token needs the characters before which alone its scan takes something. -/
theorem needs_token {scan : Scan} {kind : Char → Bool} (hend : scan [] = none)
    (h : ∀ c s, kind c = false → scan (c :: s) = none) : Needs (token scan) kind := by
  intro c x hx
  unfold token at hx
  dsimp only at hx
  split at hx
  · rename_i text rest hscan
    cases hrest : (skipBlank c).rest with
    | nil =>
      rw [hrest, hend] at hscan
      cases hscan
    | cons d s =>
      refine ⟨d, rfl, ?_⟩
      rw [← Bool.not_eq_false]
      intro hkind
      rw [hrest, h d s hkind] at hscan
      cases hscan
  · cases hx

theorem Needs.bind {p : Reader α} {kind : Char → Bool} (hp : Needs p kind) {f : α → Reader β} :
    Needs (p >>= f) kind := by
  rintro c ⟨b, c'⟩ hx
  obtain ⟨a, c₁, hread, -⟩ := result_bind_eq_some hx
  exact hp c (a, c₁) hread

theorem Needs.or {p q : Reader α} {kind : Char → Bool} (hp : Needs p kind) (hq : Needs q kind) :
    Needs (p.or q) kind := by
  intro c x hx
  rcases result_or_eq_some hx with hx | hx
  · exact hp c x hx
  · exact hq c x hx

theorem needs_fail {kind : Char → Bool} : Needs (fail : Reader α) kind := fun _ _ hx => nomatch hx

theorem needs_firstOf {ps : List (Reader α)} {kind : Char → Bool} (h : ∀ p ∈ ps, Needs p kind) :
    Needs (firstOf ps) kind := by
  intro c x hx
  obtain ⟨p, hp, hread⟩ := result_firstOf_eq_some hx
  exact h p hp c x hread

theorem Needs.imp {p : Reader α} {kind kind' : Char → Bool} (h : Needs p kind)
    (himp : ∀ c, kind c = true → kind' c = true) : Needs p kind' := by
  intro c x hx
  obtain ⟨d, hd, hkind⟩ := h c x hx
  exact ⟨d, hd, himp d hkind⟩

/-- A reader fails before a character that it does not need. -/
theorem Needs.fails {p : Reader α} {kind : Char → Bool} (hp : Needs p kind) {c : Char}
    {s : List Char} (hblank : isBlank c = false) (hslash : c ≠ '/') (hkind : kind c = false) :
    Fails N p (c :: s) := by
  unfold Fails
  cases hresult : (p (placeAt N (c :: s))).result with
  | none => rfl
  | some x =>
    obtain ⟨d, hd, hdkind⟩ := hp _ x hresult
    rw [skipBlank_token hblank hslash] at hd
    cases hd
    rw [hkind] at hdkind
    cases hdkind

end Reader

open Reader

/-! ## 3. Spelled tokens -/

/-- From `s` to `s'`, a text spells some tokens: each behind a gap and apart from what follows. -/
inductive Steps : List Lexeme → List Char → List Char → Prop where
  | nil (s : List Char) : Steps [] s s
  | cons {gap rest s' : List Char} {t : Lexeme} {ts : List Lexeme} (hgap : IsGap gap)
      (hvalid : t.Valid) (hapart : t.Apart rest) (hmore : Steps ts rest s') :
      Steps (t :: ts) (gap ++ (t.text ++ rest)) s'

/-- A text spells some tokens up to its end. -/
def Spelled (ts : List Lexeme) (s : List Char) : Prop := ∃ tail, Steps ts s tail ∧ IsGap tail

theorem Steps.length {ts : List Lexeme} {s s' : List Char} (h : Steps ts s s') :
    s'.length + ts.length ≤ s.length := by
  induction h with
  | nil => exact Nat.le_refl _
  | cons hgap hvalid _ _ ih =>
    obtain ⟨c, more, htext, -⟩ := hvalid.text_cons
    rw [List.length_append, List.length_append, htext, List.length_cons, List.length_cons]
    omega

theorem Steps.length_le {ts : List Lexeme} {s s' : List Char} (h : Steps ts s s')
    (hN : s.length ≤ N) : s'.length ≤ N := by
  have hlength := h.length
  omega

theorem Steps.append {ts us : List Lexeme} {s s' s'' : List Char} (h : Steps ts s s')
    (h' : Steps us s' s'') : Steps (ts ++ us) s s'' := by
  induction h with
  | nil => exact h'
  | cons hgap hvalid hapart _ ih => exact .cons hgap hvalid hapart (ih h')

theorem Steps.of_append {ts us : List Lexeme} {s s'' : List Char} (h : Steps (ts ++ us) s s'') :
    ∃ s', Steps ts s s' ∧ Steps us s' s'' := by
  induction ts generalizing s with
  | nil => exact ⟨s, .nil s, h⟩
  | cons t ts ih =>
    cases h with
    | cons hgap hvalid hapart hmore =>
      obtain ⟨s', hts, hus⟩ := ih hmore
      exact ⟨s', .cons hgap hvalid hapart hts, hus⟩

theorem Steps.spelled {ts us : List Lexeme} {s s' : List Char} (h : Steps ts s s')
    (h' : Spelled us s') : Spelled (ts ++ us) s := by
  obtain ⟨tail, hsteps, htail⟩ := h'
  exact ⟨tail, h.append hsteps, htail⟩

theorem Spelled.of_append {ts us : List Lexeme} {s : List Char} (h : Spelled (ts ++ us) s) :
    ∃ s', Steps ts s s' ∧ Spelled us s' := by
  obtain ⟨tail, hsteps, htail⟩ := h
  obtain ⟨s', hts, hus⟩ := hsteps.of_append
  exact ⟨s', hts, tail, hus, htail⟩

/-- Behind the gap of a spelled token is its text. -/
theorem skipBlank_text {gap rest : List Char} {t : Lexeme} (hgap : IsGap gap) (hvalid : t.Valid)
    (hN : (gap ++ (t.text ++ rest)).length ≤ N) :
    skipBlank (placeAt N (gap ++ (t.text ++ rest))) = placeAt N (t.text ++ rest) := by
  obtain ⟨c, more, htext, hstarts⟩ := hvalid.text_cons
  obtain ⟨hblank, hslash⟩ := Lexeme.not_gapStart_of_starts hstarts
  rw [skipBlank_gap hgap hN, htext]
  exact skipBlank_token hblank hslash _

/-- Behind the gap at the end of a text is nothing. -/
theorem skipBlank_tail {tail : List Char} (h : IsGap tail) (hN : tail.length ≤ N) :
    skipBlank (placeAt N tail) = placeAt N [] := by
  have hskip := skipBlank_gap (N := N) h (s := []) (by rwa [List.append_nil])
  rwa [List.append_nil, skipBlank_end] at hskip

/-- Behind the gap of a spelled text is what its first token begins with. -/
theorem Spelled.head {ts : List Lexeme} {s : List Char} (h : Spelled ts s) (hN : s.length ≤ N)
    {c : Char} (hc : c ∈ (skipBlank (placeAt N s)).rest.head?) :
    ∃ t ∈ ts.head?, t.starts c = true := by
  obtain ⟨tail, hsteps, htail⟩ := h
  cases hsteps with
  | nil =>
    rw [skipBlank_tail htail hN] at hc
    cases hc
  | @cons gap rest _ t ts hgap hvalid _ _ =>
    rw [skipBlank_text hgap hvalid hN] at hc
    obtain ⟨d, more, htext, hstarts⟩ := hvalid.text_cons
    rw [htext] at hc
    cases hc
    exact ⟨t, rfl, hstarts⟩

/-- Characters of some list and, perhaps, all letters. -/
def oneOf (letters : Bool) (cs : List Char) (c : Char) : Bool :=
  (letters && c.isAlpha) || cs.contains c

/-- Characters of a shorter list. -/
theorem oneOf_mono {letters letters' : Bool} {cs cs' : List Char}
    (hletters : letters = true → letters' = true) (hcs : ∀ c ∈ cs, c ∈ cs') (c : Char)
    (h : oneOf letters cs c = true) : oneOf letters' cs' c = true := by
  rw [oneOf, Bool.or_eq_true, Bool.and_eq_true, List.contains_iff_mem] at h ⊢
  exact h.imp (fun h => ⟨hletters h.1, h.2⟩) (hcs c)

/-- Tokens of which the first begins with no character of a kind. -/
def Avoids (us : List Lexeme) (kind : Char → Bool) : Prop :=
  ∀ t ∈ us.head?, ∀ c, t.starts c = true → kind c = false

/-- What begins with none of some characters begins with none of fewer. -/
theorem Avoids.mono {us : List Lexeme} {letters letters' : Bool} {cs cs' : List Char}
    (h : Avoids us (oneOf letters' cs')) (hletters : letters = true → letters' = true)
    (hcs : ∀ c ∈ cs, c ∈ cs') : Avoids us (oneOf letters cs) := by
  intro t ht c hc
  rw [← Bool.not_eq_true]
  intro hkind
  have hnone := h t ht c hc
  rw [oneOf_mono hletters hcs c hkind] at hnone
  cases hnone

theorem avoids_nil (kind : Char → Bool) : Avoids [] kind := nofun

/-- Whether a token begins with none of some characters and, perhaps, with no letter. -/
def Lexeme.avoids (t : Lexeme) (letters : Bool) (cs : List Char) : Bool :=
  !(letters && t.isName) && cs.all fun c => !t.starts c

theorem avoids_of_head {us : List Lexeme} {letters : Bool} {cs : List Char}
    (h : ∀ t ∈ us.head?, t.avoids letters cs = true) : Avoids us (oneOf letters cs) := by
  intro t ht c hc
  have hboth := h t ht
  rw [Lexeme.avoids, Bool.and_eq_true, Bool.not_eq_true', List.all_eq_true] at hboth
  rw [oneOf, Bool.or_eq_false_iff]
  constructor
  · cases letters with
    | false => rfl
    | true => exact Lexeme.isAlpha_of_starts hboth.1 hc
  · rw [← Bool.not_eq_true, List.contains_iff_mem]
    intro hmem
    have hnot := hboth.2 c hmem
    rw [hc] at hnot
    cases hnot

theorem avoids_one {us : List Lexeme} {k : Char} (h : ∀ t ∈ us.head?, t.starts k = false) :
    Avoids us (oneOf false [k]) := by
  refine avoids_of_head fun t ht => ?_
  rw [Lexeme.avoids, List.all_cons, h t ht]
  rfl

theorem avoids_cons {t : Lexeme} {us : List Lexeme} {letters : Bool} {cs : List Char}
    (h : t.avoids letters cs = true) : Avoids (t :: us) (oneOf letters cs) := by
  refine avoids_of_head ?_
  rintro _ ⟨⟩
  exact h

namespace Reader

/-! ## 4. All spellings at once -/

/-- However some tokens are spelled, and whatever `us` are spelled behind them, a reader takes them
    and gives a value. -/
def Takes (p : Reader α) (ts : List Lexeme) (a : α) (us : List Lexeme) : Prop :=
  ∀ N s s', s.length ≤ N → Steps ts s s' → Spelled us s' → Reads N p s a s'

/-- However some tokens are spelled, a reader fails on them. -/
def Refuses (p : Reader α) (us : List Lexeme) : Prop :=
  ∀ N s, s.length ≤ N → Spelled us s → Fails N p s

variable {p q : Reader α} {f : α → Reader β} {ts vs us : List Lexeme} {a : α} {b : β}

theorem takes_pure (a : α) (us : List Lexeme) : Takes (Pure.pure a) [] a us := by
  intro N s s' hN hsteps _
  cases hsteps
  exact reads_pure a s

theorem Takes.bind (hp : Takes p ts a (vs ++ us)) (hf : Takes (f a) vs b us) :
    Takes (p >>= f) (ts ++ vs) b us := by
  intro N s s'' hN hsteps hus
  obtain ⟨s', hts, hvs⟩ := hsteps.of_append
  exact (hp N s s' hN hts (hvs.spelled hus)).bind (hf N s' s'' (hts.length_le hN) hvs hus)

/-- The last reader of a row takes nothing. -/
theorem Takes.bind_pure (hp : Takes p ts a us) {b : β} (hf : f a = Pure.pure b) :
    Takes (p >>= f) ts b us := by
  have hp' : Takes p ts a ([] ++ us) := hp
  have hvs : Takes (f a) [] b us := hf ▸ takes_pure b us
  have h := hp'.bind hvs
  rwa [List.append_nil] at h

/-- A reader that takes nothing comes first. -/
theorem Takes.then (hp : Takes p [] a (vs ++ us)) (hf : Takes (f a) vs b us) :
    Takes (p >>= f) vs b us :=
  Takes.bind hp hf

/-- A look ahead, and then another. -/
theorem Takes.peek (hp : Takes p [] a us) (hf : Takes (f a) [] b us) : Takes (p >>= f) [] b us :=
  hp.then hf

theorem Refuses.bind (hp : Refuses p us) : Refuses (p >>= f) us :=
  fun N s hN hus => (hp N s hN hus).bind

theorem Takes.bind_refuses (hp : Takes p ts a us) (hf : Refuses (f a) us) :
    Refuses (p >>= f) (ts ++ us) := by
  intro N s hN hspelled
  obtain ⟨s', hts, hus⟩ := hspelled.of_append
  exact (hp N s s' hN hts hus).bind_fails (hf N s' (hts.length_le hN) hus)

theorem Takes.or (hp : Takes p ts a us) : Takes (p.or q) ts a us :=
  fun N s s' hN hts hus => (hp N s s' hN hts hus).or

theorem Refuses.or_takes (hp : Refuses p (ts ++ us)) (hq : Takes q ts a us) :
    Takes (p.or q) ts a us :=
  fun N s s' hN hts hus => (hp N s hN (hts.spelled hus)).or.trans (hq N s s' hN hts hus)

theorem Refuses.or (hp : Refuses p us) (hq : Refuses q us) : Refuses (p.or q) us :=
  fun N s hN hus => (hp N s hN hus).or.trans (hq N s hN hus)

/-- The first reader of a list takes the tokens. -/
theorem Takes.firstOf {ps : List (Reader α)} (hp : Takes p ts a us) :
    Takes (Reader.firstOf (p :: ps)) ts a us := by
  cases ps with
  | nil => exact hp
  | cons q qs => exact hp.or

/-- The first reader of a list refuses the tokens. -/
theorem Refuses.firstOf_takes {ps : List (Reader α)} (hp : Refuses p (ts ++ us))
    (hps : Takes (Reader.firstOf (q :: ps)) ts a us) :
    Takes (Reader.firstOf (p :: q :: ps)) ts a us :=
  Refuses.or_takes hp hps

theorem refuses_firstOf {ps : List (Reader α)} (h : ∀ p ∈ ps, Refuses p us) :
    Refuses (firstOf ps) us :=
  fun N s hN hus => result_firstOf fun p hp => h p hp N s hN hus

theorem Takes.optional (hp : Takes p ts a us) : Takes p.optional ts (some a) us :=
  fun N s s' hN hts hus => (hp N s s' hN hts hus).optional

theorem Refuses.optional (hp : Refuses p us) : Takes p.optional [] none us := by
  intro N s s' hN hts hus
  cases hts
  exact (hp N s hN hus).optional

/-- Looking ahead at tokens that can be read. -/
theorem Takes.ahead (hp : Takes p ts a us) : Takes (Reader.ahead p) [] true (ts ++ us) := by
  intro N s s' hN hnil hspelled
  cases hnil
  obtain ⟨s', hts, hus⟩ := hspelled.of_append
  exact (hp N s s' hN hts hus).ahead

theorem Refuses.ahead (hp : Refuses p us) : Takes (Reader.ahead p) [] false us := by
  intro N s s' hN hnil hspelled
  cases hnil
  exact (hp N s hN hspelled).ahead

/-- However often a reader may go on, it takes some tokens for a list of values. -/
structure TakesMany (p : Reader α) (ts : List Lexeme) (as : List α) (us : List Lexeme) :
    Prop where
  /-- Every value has a token at least. -/
  length : as.length ≤ ts.length
  upTo : ∀ n, as.length ≤ n → Takes (upTo p n) ts as us

theorem Refuses.takesMany (hp : Refuses p us) : TakesMany p [] [] us := by
  refine ⟨Nat.le_refl 0, fun n _ N s s' hN hts hus => ?_⟩
  cases hts
  exact (hp N s hN hus).upTo n

theorem TakesMany.cons {as : List α} (hp : Takes p ts a (vs ++ us)) (hts : ts ≠ [])
    (hmore : TakesMany p vs as us) : TakesMany p (ts ++ vs) (a :: as) us := by
  have hlength := List.length_pos_iff.mpr hts
  refine ⟨?_, fun n hn N s s'' hN hsteps hus => ?_⟩
  · have hmoreLength := hmore.length
    rw [List.length_append, List.length_cons]
    omega
  · obtain ⟨n, rfl⟩ : ∃ k, n = k + 1 := ⟨n - 1, by rw [List.length_cons] at hn; omega⟩
    obtain ⟨s', hts', hvs⟩ := hsteps.of_append
    have hn' : as.length ≤ n := by
      rw [List.length_cons] at hn
      omega
    exact (hp N s s' hN hts' (hvs.spelled hus)).upTo
      (hmore.upTo n hn' N s' s'' (hts'.length_le hN) hvs hus)

theorem TakesMany.many {as : List α} (h : TakesMany p ts as us) : Takes (many p) ts as us := by
  intro N s s' hN hts hus
  have hlength := hts.length
  have hvalues := h.length
  have hn : as.length ≤ s.length + 1 := by omega
  exact h.upTo (s.length + 1) hn N s s' hN hts hus

/-- A reader that never reads is repeated no time. -/
theorem Refuses.many (hp : Refuses p us) : Takes (Reader.many p) [] [] us := hp.takesMany.many

/-! ## 5. Single tokens -/

theorem takes_token {scan : Scan} {t : Lexeme} (h : Scans scan t) (us : List Lexeme) :
    Takes (token scan) [t] (String.ofList t.text) us := by
  intro N s s' hN hsteps _
  cases hsteps with
  | cons hgap hvalid hapart hmore =>
    cases hmore
    obtain ⟨c, more, htext, hstarts⟩ := hvalid.text_cons
    exact reads_token hgap htext (Lexeme.not_gapStart_of_starts hstarts) hN (h hvalid _ hapart)

/-- A token that is not there: not the first, whatever stands behind it. -/
theorem refuses_token {scan : Scan} (hend : scan [] = none)
    (h : ∀ t us', us = t :: us' → t.Valid → ∀ rest, t.Apart rest → scan (t.text ++ rest) = none) :
    Refuses (token scan) us := by
  intro N s hN hspelled
  obtain ⟨tail, hsteps, htail⟩ := hspelled
  refine fails_token ?_
  cases hsteps with
  | nil =>
    rw [skipBlank_tail htail hN]
    exact hend
  | @cons gap rest _ t ts hgap hvalid hapart _ =>
    rw [skipBlank_text hgap hvalid hN]
    exact h t ts rfl hvalid rest hapart

/-- A reader refuses tokens that begin with none of its characters. -/
theorem Needs.refuses {kind : Char → Bool} (hp : Needs p kind) (h : Avoids us kind) :
    Refuses p us := by
  intro N s hN hspelled
  unfold Fails
  cases hresult : (p (placeAt N s)).result with
  | none => rfl
  | some x =>
    obtain ⟨c, hc, hkind⟩ := hp _ x hresult
    obtain ⟨t, ht, hstarts⟩ := hspelled.head hN hc
    rw [h t ht c hstarts] at hkind
    cases hkind

/-- Nothing but a gap is the end of a text. -/
theorem reads_ending {tail : List Char} (h : IsGap tail) (hN : tail.length ≤ N) :
    Reads N ending tail () [] := by
  unfold Reads ending
  rw [skipBlank_tail h hN]
  rfl

end Reader

end GrammarManual.G4
