import GrammarManual.G4.Token
import GrammarManual.Grammar.Expr

/-!
# Proofs/Spelling: how tokens are spelled, and that they are scanned as they are spelled

* `IsGap` -- blanks and comments between tokens; `skipBlank_gap` says that they are skipped whole;
* `Lexeme` -- the tokens of rule bodies and declarations, each with its text, the condition on
  that text (`Valid`) and what may not stand right behind it (`Apart`);
* `Scans` -- a scan takes exactly the text of a lexeme; one lemma for each scan.

The conditions speak of texts alone, not of the scans.
-/

namespace GrammarManual.G4

/-- What holds of the members of a list is decided on its members, not on every character. -/
instance (priority := high) decidableForallMem {α : Type} (P : α → Prop) [DecidablePred P]
    (l : List α) : Decidable (∀ a ∈ l, P a) :=
  List.decidableBAll P l

/-! ## 1. Gaps -/

/-- A run of blanks, comments that a newline ends and block comments; it may be empty. -/
inductive IsGap : List Char → Prop where
  | nil : IsGap []
  | blank {c : Char} {rest : List Char} (hc : isBlank c = true) (hrest : IsGap rest) :
      IsGap (c :: rest)
  | line {inner rest : List Char} (hinner : '\n' ∉ inner) (hrest : IsGap rest) :
      IsGap ('/' :: '/' :: (inner ++ '\n' :: rest))
  /-- The first end of a comment closes it. -/
  | block {inner rest : List Char} (hinner : ¬ ['*', '/'] <:+: inner) (hrest : IsGap rest) :
      IsGap ('/' :: '*' :: (inner ++ '*' :: '/' :: rest))

theorem skip_line {inner : List Char} (hinner : '\n' ∉ inner) (n : Nat) (rest : List Char) :
    skip .line n (inner ++ '\n' :: rest) = skip .blanks (n + inner.length + 1) rest := by
  induction inner generalizing n with
  | nil => rfl
  | cons c inner ih =>
    have hc : c ≠ '\n' := fun h => hinner (h ▸ List.mem_cons_self)
    rw [List.cons_append, skip, if_neg hc, ih fun h => hinner (List.mem_cons_of_mem c h)]
    congr 1
    rw [List.length_cons]
    omega

/-- A block comment is skipped to its end, behind a star as elsewhere. -/
theorem skip_block {inner : List Char} (hinner : ¬ ['*', '/'] <:+: inner) (opening : Cursor)
    (n : Nat) (rest : List Char) :
    skip (.block opening) n (inner ++ '*' :: '/' :: rest) =
        skip .blanks (n + inner.length + 2) rest ∧
      (inner.head? ≠ some '/' →
        skip (.star opening) n (inner ++ '*' :: '/' :: rest) =
          skip .blanks (n + inner.length + 2) rest) := by
  induction inner generalizing n with
  | nil => exact ⟨rfl, fun _ => rfl⟩
  | cons c inner ih =>
    have hrest : ¬ ['*', '/'] <:+: inner := fun h =>
      hinner (h.trans (List.infix_cons (List.infix_refl inner)))
    obtain ⟨hblock, hstar⟩ := ih hrest (n + 1)
    have hn : n + 1 + inner.length + 2 = n + (c :: inner).length + 2 := by
      rw [List.length_cons]
      omega
    rw [hn] at hblock hstar
    have hnext : c = '*' → inner.head? ≠ some '/' := by
      rintro rfl hhead
      obtain ⟨more, rfl⟩ : ∃ more, inner = '/' :: more := by
        cases inner with
        | nil => cases hhead
        | cons d more =>
          cases hhead
          exact ⟨more, rfl⟩
      exact hinner ⟨[], more, rfl⟩
    refine ⟨?_, fun hhead => ?_⟩
    · rw [List.cons_append, skip]
      by_cases hc : c = '*'
      · rw [if_pos hc]
        exact hstar (hnext hc)
      · rw [if_neg hc]
        exact hblock
    · have hslash : c ≠ '/' := fun h => hhead (h ▸ rfl)
      rw [List.cons_append, skip, if_neg hslash]
      by_cases hc : c = '*'
      · rw [if_pos hc]
        exact hstar (hnext hc)
      · rw [if_neg hc]
        exact hblock

/-- Skipping goes over a gap. -/
theorem skip_gap {gap : List Char} (h : IsGap gap) (n : Nat) (s : List Char) :
    skip .blanks n (gap ++ s) = skip .blanks (n + gap.length) s := by
  induction h generalizing n with
  | nil => rfl
  | blank hc _ ih =>
    rw [List.cons_append, skip, if_pos hc, ih, List.length_cons]
    congr 1
    omega
  | @line inner rest hinner _ ih =>
    have htext : '/' :: '/' :: (inner ++ '\n' :: rest) ++ s =
        '/' :: '/' :: (inner ++ '\n' :: (rest ++ s)) := by simp
    rw [htext, skip, if_neg (by decide), if_pos rfl, skip, if_pos rfl, skip_line hinner, ih]
    congr 1
    simp only [List.length_cons, List.length_append]
    omega
  | @block inner rest hinner _ ih =>
    have htext : '/' :: '*' :: (inner ++ '*' :: '/' :: rest) ++ s =
        '/' :: '*' :: (inner ++ '*' :: '/' :: (rest ++ s)) := by simp
    rw [htext, skip, if_neg (by decide), if_pos rfl, skip, if_neg (by decide), if_pos rfl,
      (skip_block hinner _ _ _).1, ih]
    congr 1
    simp only [List.length_cons, List.length_append]
    omega

/-- Skipping stops where a token begins. -/
theorem skip_token {c : Char} (hblank : isBlank c = false) (hslash : c ≠ '/') (n : Nat)
    (s : List Char) : skip .blanks n (c :: s) = ⟨n, c :: s⟩ := by
  rw [skip, if_neg (by rw [hblank]; exact Bool.false_ne_true), if_neg hslash]

/-- The place in a text of `N` characters at which some are ahead. -/
def placeAt (N : Nat) (s : List Char) : Cursor := ⟨N - s.length, s⟩

variable {N : Nat}

/-- A gap is skipped as a whole. -/
theorem skipBlank_gap {gap s : List Char} (h : IsGap gap) (hN : (gap ++ s).length ≤ N) :
    skipBlank (placeAt N (gap ++ s)) = skipBlank (placeAt N s) := by
  show skip .blanks (N - (gap ++ s).length) (gap ++ s) = skip .blanks (N - s.length) s
  rw [skip_gap h]
  rw [List.length_append] at hN ⊢
  congr 1
  omega

theorem skipBlank_token {c : Char} (hblank : isBlank c = false) (hslash : c ≠ '/')
    (s : List Char) : skipBlank (placeAt N (c :: s)) = placeAt N (c :: s) :=
  skip_token hblank hslash _ s

theorem skipBlank_end : skipBlank (placeAt N []) = placeAt N [] := rfl

/-- The characters that a gap can begin with. -/
def gapStarts : List Char := [' ', '\t', '\x0c', '\r', '\n', '/']

theorem mem_gapStarts {c : Char} (h : isBlank c = true ∨ c = '/') : c ∈ gapStarts := by
  rcases h with h | rfl
  · simp only [isBlank, Bool.or_eq_true, decide_eq_true_eq] at h
    rcases h with (((rfl | rfl) | rfl) | rfl) | rfl <;> decide
  · decide

theorem IsGap.head_mem {gap : List Char} (h : IsGap gap) {c : Char} (hc : c ∈ gap.head?) :
    c ∈ gapStarts := by
  cases h with
  | nil => cases hc
  | blank hb _ =>
    cases hc
    exact mem_gapStarts (.inl hb)
  | line _ _ =>
    cases hc
    exact mem_gapStarts (.inr rfl)
  | block _ _ =>
    cases hc
    exact mem_gapStarts (.inr rfl)

/-- A character of a kind that no gap begins with. -/
theorem not_gapStart {p : Char → Bool} (hp : ∀ d ∈ gapStarts, p d = false) {c : Char}
    (hc : p c = true) : isBlank c = false ∧ c ≠ '/' := by
  constructor
  · rw [← Bool.not_eq_true]
    intro hb
    rw [hp c (mem_gapStarts (.inl hb))] at hc
    cases hc
  · rintro rfl
    rw [hp _ (mem_gapStarts (.inr rfl))] at hc
    cases hc

/-! ## 2. Enclosed texts -/

/-- Text that a closing character may follow: a backslash stands with the character behind it, and
    the closing character does not stand by itself. -/
inductive Enclosed (close : Char) (allowed : Char → Bool) : List Char → Prop where
  | nil : Enclosed close allowed []
  | pair {c : Char} {rest : List Char} (hc : c ≠ '\n') (hrest : Enclosed close allowed rest) :
      Enclosed close allowed ('\\' :: c :: rest)
  | plain {c : Char} {rest : List Char} (hclose : c ≠ close) (hslash : c ≠ '\\')
      (hallowed : allowed c = true) (hrest : Enclosed close allowed rest) :
      Enclosed close allowed (c :: rest)

/-- Text whose braces match and nest at most `depth` deep. -/
inductive Braced : Nat → List Char → Prop where
  | nil {depth : Nat} : Braced depth []
  | plain {depth : Nat} {c : Char} {rest : List Char} (hopen : c ≠ '{') (hclose : c ≠ '}')
      (hrest : Braced depth rest) : Braced depth (c :: rest)
  | nested {depth : Nat} {inner rest : List Char} (hinner : Braced depth inner)
      (hrest : Braced (depth + 1) rest) : Braced (depth + 1) ('{' :: (inner ++ '}' :: rest))

namespace Scan

variable {close : Char} {allowed : Char → Bool} {inner : List Char}

/-- A character that no backslash begins. -/
theorem upToClose_plain {c : Char} (hclose : c ≠ close) (hslash : c ≠ '\\') (s : List Char) :
    upToClose close allowed (c :: s) =
      if allowed c = true then
        (upToClose close allowed s).map fun (text, rest) => (c :: text, rest)
      else none := by
  rw [upToClose]
  · rw [if_neg hclose]
    simp [hslash]
  · rintro d rest rfl
    exact fun _ => hslash rfl

theorem upToClose_enclosed (h : Enclosed close allowed inner) (hclose : close ≠ '\\')
    (s : List Char) :
    upToClose close allowed (inner ++ close :: s) = some (inner ++ [close], s) := by
  induction h with
  | nil =>
    rw [List.nil_append, upToClose]
    · rw [if_pos rfl]
      rfl
    · rintro d rest rfl
      exact fun _ => hclose rfl
  | pair hc _ ih =>
    rw [List.cons_append, List.cons_append, upToClose, if_neg hc, ih]
    rfl
  | plain hne hslash hallowed _ ih =>
    rw [List.cons_append, upToClose_plain hne hslash, if_pos hallowed, ih]
    rfl

/-- A character that is not allowed by itself is met before the end. -/
theorem upToClose_broken {more : Char → Bool} (h : Enclosed close more inner)
    (hbroken : ¬ Enclosed close allowed inner) (s : List Char) :
    upToClose close allowed (inner ++ close :: s) = none := by
  induction h with
  | nil => exact absurd .nil hbroken
  | pair hc _ ih =>
    rw [List.cons_append, List.cons_append, upToClose, if_neg hc,
      ih fun h => hbroken (.pair hc h)]
    rfl
  | @plain c rest hne hslash _ _ ih =>
    rw [List.cons_append, upToClose_plain hne hslash]
    by_cases hc : allowed c = true
    · rw [if_pos hc, ih fun h => hbroken (.plain hne hslash hc h)]
      rfl
    · rw [if_neg hc]

/-- Inside `k + 1` open braces, text with matching braces is read over. -/
theorem braces_append {depth k : Nat} (h : Braced depth inner) (hk : k + depth ≤ 2)
    (s : List Char) :
    braces (k + 1) (inner ++ s) =
      (braces (k + 1) s).map fun (text, rest) => (inner ++ text, rest) := by
  induction h generalizing k s with
  | nil =>
    rw [List.nil_append]
    cases braces (k + 1) s <;> rfl
  | plain hopen hclose _ ih =>
    rw [List.cons_append, braces]
    dsimp only
    rw [if_neg hopen, if_neg hclose, ih hk, Option.map_map]
    rfl
  | @nested depth inner rest _ _ ih ihrest =>
    have htext : '{' :: (inner ++ '}' :: rest) ++ s = '{' :: (inner ++ ('}' :: (rest ++ s))) := by
      simp
    have hopen : k + 1 < 3 := by omega
    rw [htext, braces]
    dsimp only
    rw [if_pos rfl, if_pos hopen, ih (by omega), braces]
    dsimp only
    rw [if_neg (by decide), if_pos rfl, if_neg (Nat.succ_ne_zero k), ihrest hk, Option.map_map,
      Option.map_map, Option.map_map]
    congr 1
    funext ⟨text, rest⟩
    simp

end Scan

/-! ## 3. Lexemes -/

/-- No digit is a letter. -/
theorem isAlpha_of_isDigit {c : Char} (h : c.isDigit = true) : c.isAlpha = false := by
  delta Char.isDigit at h
  delta Char.isAlpha Char.isUpper Char.isLower
  simp only [Bool.and_eq_true, Bool.or_eq_false_iff, Bool.and_eq_false_iff, decide_eq_true_eq,
    decide_eq_false_iff_not, UInt32.le_iff_toNat_le, ge_iff_le] at h ⊢
  have hnine : '9'.val.toNat = 57 := rfl
  have hA : 'A'.val.toNat = 65 := rfl
  have ha : 'a'.val.toNat = 97 := rfl
  omega

/-- No letter is both small and capital. -/
theorem isUpper_of_isLower {c : Char} (h : c.isLower = true) : c.isUpper = false := by
  delta Char.isLower at h
  delta Char.isUpper
  simp only [Bool.and_eq_true, decide_eq_true_eq, decide_eq_false_iff_not, UInt32.le_iff_toNat_le,
    ge_iff_le] at h ⊢
  have hZ : 'Z'.val.toNat = 90 := rfl
  have ha : 'a'.val.toNat = 97 := rfl
  omega

/-- A token of a rule body or a declaration. -/
inductive Lexeme where
  | name (first : Char) (more : List Char)
  | digits (text : List Char)
  /-- A literal without its quotes. -/
  | literal (inner : List Char)
  /-- A character set or an argument, without its brackets. -/
  | brackets (inner : List Char)
  /-- Foreign code without its braces. -/
  | code (inner : List Char)
  /-- Options of an element, without their angle brackets. -/
  | options (inner : List Char)
  | suffix (times : Repetition) (greedy : Bool)
  | wildcard
  | sign (text : String)
  deriving DecidableEq, Repr

namespace Lexeme

/-- The signs of the notation. -/
def signs : List String := [":", ";", "|", "(", ")", "~", "..", "->", ",", "#", "=", "+=", "?"]

/-- The text of a token. -/
def text : Lexeme → List Char
  | name first more => first :: more
  | digits text => text
  | literal inner => '\'' :: (inner ++ ['\''])
  | brackets inner => '[' :: (inner ++ [']'])
  | code inner => '{' :: (inner ++ ['}'])
  | options inner => '<' :: (inner ++ ['>'])
  | suffix times greedy => times.sign.toList ++ if greedy then [] else ['?']
  | wildcard => ['.']
  | sign text => text.toList

/-- What the text of a token may be. -/
def Valid : Lexeme → Prop
  | name first more => first.isAlpha = true ∧ ∀ c ∈ more, Scan.isNameChar c = true
  | digits text => text ≠ [] ∧ ∀ c ∈ text, c.isDigit = true
  | literal inner => Enclosed '\'' Scan.isInline inner
  | brackets inner => Enclosed ']' (fun _ => true) inner
  | code inner => Braced 2 inner
  | options inner => ∀ c ∈ inner, c ≠ '<' ∧ c ≠ '>'
  | suffix _ _ | wildcard => True
  | sign text => text ∈ signs

/-- The characters that would be taken for a part of the token if they stood right behind it. -/
def extends? : Lexeme → Char → Bool
  | name _ _, c => Scan.isNameChar c
  | digits _, c => c.isDigit
  | suffix times true, c => c = '?' || (times = .oneOrMore && c = '=')
  | wildcard, c => c = '.'
  | _, _ => false

/-- What follows a token is told from it. -/
def Apart (t : Lexeme) (rest : List Char) : Prop :=
  ∀ c ∈ rest.head?, t.extends? c = false

theorem extends?_gapStarts (t : Lexeme) : ∀ c ∈ gapStarts, t.extends? c = false := by
  cases t with
  | name first more => exact (by decide : ∀ c ∈ gapStarts, Scan.isNameChar c = false)
  | digits text => exact (by decide : ∀ c ∈ gapStarts, c.isDigit = false)
  | suffix times greedy => cases times <;> cases greedy <;> decide
  | wildcard => decide
  | _ => exact fun _ _ => rfl

/-- Behind a gap, every token is told from the one before. -/
theorem apart_of_gap {gap : List Char} (h : IsGap gap) (hne : gap ≠ []) (t : Lexeme)
    (rest : List Char) : t.Apart (gap ++ rest) := by
  intro c hc
  refine t.extends?_gapStarts c (h.head_mem ?_)
  obtain ⟨d, more, rfl⟩ := List.exists_cons_of_ne_nil hne
  exact hc

/-- The characters that a token can begin with. -/
def starts : Lexeme → Char → Bool
  | name _ _, c => c.isAlpha
  | digits _, c => c.isDigit
  | literal _, c => c = '\''
  | brackets _, c => c = '['
  | code _, c => c = '{'
  | options _, c => c = '<'
  | suffix _ _, c => c = '?' || c = '*' || c = '+'
  | wildcard, c => c = '.'
  | sign text, c => signs.contains text && text.toList.head? = some c

/-- Whether a token is a name. -/
def isName : Lexeme → Bool
  | name _ _ => true
  | _ => false

/-- A token is not empty, and begins as its kind says. -/
theorem Valid.text_cons {t : Lexeme} (h : t.Valid) :
    ∃ c rest, t.text = c :: rest ∧ t.starts c = true := by
  cases t with
  | name first more => exact ⟨first, more, rfl, h.1⟩
  | digits text =>
    obtain ⟨hne, hall⟩ := h
    obtain ⟨c, rest, rfl⟩ := List.exists_cons_of_ne_nil hne
    exact ⟨c, rest, rfl, hall c List.mem_cons_self⟩
  | suffix times greedy =>
    cases times <;> exact ⟨_, _, rfl, rfl⟩
  | sign text =>
    have hne : ∀ w ∈ signs, w.toList ≠ [] := by decide
    obtain ⟨c, rest, htext⟩ := List.exists_cons_of_ne_nil (hne text h)
    have hhead : text.toList.head? = some c := by rw [htext]; rfl
    refine ⟨c, rest, htext, ?_⟩
    rw [starts, List.contains_iff_mem.mpr h, hhead, Bool.true_and, decide_eq_true_eq]
  | _ => exact ⟨_, _, rfl, rfl⟩

/-- A sign begins with the first character of one of the signs. -/
theorem starts_sign {text : String} {c : Char} (h : (sign text).starts c = true) :
    text ∈ signs ∧ c ∈ signs.filterMap fun w => w.toList.head? := by
  rw [starts, Bool.and_eq_true, decide_eq_true_eq] at h
  have hmem := List.contains_iff_mem.mp h.1
  exact ⟨hmem, List.mem_filterMap.mpr ⟨text, hmem, h.2⟩⟩

theorem starts_suffix {times : Repetition} {greedy : Bool} {c : Char}
    (h : (suffix times greedy).starts c = true) : c = '?' ∨ c = '*' ∨ c = '+' := by
  simpa [starts, or_assoc] using h

theorem starts_sign_eq_false {c : Char} (h : c ∉ signs.filterMap fun w => w.toList.head?)
    (text : String) : (sign text).starts c = false := by
  rw [← Bool.not_eq_true]
  exact fun hstarts => h (starts_sign hstarts).2

/-- No token begins like a gap. -/
theorem not_gapStart_of_starts {t : Lexeme} {c : Char} (h : t.starts c = true) :
    isBlank c = false ∧ c ≠ '/' := by
  cases t with
  | name first more =>
    have hletter : c.isAlpha = true := h
    exact not_gapStart (by decide) hletter
  | digits text =>
    have hdigit : c.isDigit = true := h
    exact not_gapStart (by decide) hdigit
  | suffix times greedy =>
    rcases starts_suffix h with rfl | rfl | rfl <;> decide
  | sign text =>
    have hsigns : ∀ d ∈ signs.filterMap fun w => w.toList.head?, isBlank d = false ∧ d ≠ '/' := by
      decide
    exact hsigns c (starts_sign h).2
  | _ =>
    cases of_decide_eq_true h
    decide

/-- Only names begin with a letter. -/
theorem isAlpha_of_starts {t : Lexeme} (ht : t.isName = false) {c : Char}
    (h : t.starts c = true) : c.isAlpha = false := by
  cases t with
  | name first more => cases ht
  | digits text =>
    have hdigit : c.isDigit = true := h
    exact isAlpha_of_isDigit hdigit
  | suffix times greedy =>
    rcases starts_suffix h with rfl | rfl | rfl <;> rfl
  | sign text =>
    have hsigns : ∀ d ∈ signs.filterMap fun w => w.toList.head?, d.isAlpha = false := by decide
    exact hsigns c (starts_sign h).2
  | _ =>
    cases of_decide_eq_true h
    rfl

end Lexeme

/-! ## 4. Scans -/

/-- A scan takes exactly the text of a token, whatever follows apart from it. -/
def Scans (scan : Scan) (t : Lexeme) : Prop :=
  t.Valid → ∀ rest, t.Apart rest → scan (t.text ++ rest) = some (t.text, rest)

namespace Scan

theorem run_stops {p : Char → Bool} {text rest : List Char} (htext : ∀ c ∈ text, p c = true)
    (hrest : ∀ c ∈ rest.head?, p c = false) : run p (text ++ rest) = (text, rest) := by
  have hnone : rest.takeWhile p = [] ∧ rest.dropWhile p = rest := by
    cases rest with
    | nil => exact ⟨rfl, rfl⟩
    | cons c rest =>
      have hc : ¬ p c = true := by
        rw [hrest c rfl]
        exact Bool.false_ne_true
      exact ⟨List.takeWhile_cons_of_neg hc, List.dropWhile_cons_of_neg hc⟩
  rw [run, List.takeWhile_append_of_pos htext, List.dropWhile_append_of_pos htext, hnone.1, hnone.2,
    List.append_nil]

theorem scans_name {kind : Char → Bool} {first : Char} {more : List Char}
    (h : kind first = true) : Scans (name kind) (.name first more) := by
  intro hvalid rest hapart
  show name kind (first :: (more ++ rest)) = _
  rw [name, if_pos h, run_stops hvalid.2 hapart]
  rfl

theorem scans_digits (text : List Char) : Scans digits (.digits text) := by
  rintro ⟨hne, hall⟩ rest hapart
  obtain ⟨c, more, rfl⟩ := List.exists_cons_of_ne_nil hne
  show digits (c :: more ++ rest) = _
  rw [digits, run_stops hall hapart]
  rfl

theorem enclosed_text {opening close : Char} {allowed : Char → Bool} {inner : List Char}
    (h : Enclosed close allowed inner) (hclose : close ≠ '\\') (rest : List Char) :
    enclosed opening close allowed (opening :: (inner ++ [close]) ++ rest) =
      some (opening :: (inner ++ [close]), rest) := by
  have htext : opening :: (inner ++ [close]) ++ rest = opening :: (inner ++ close :: rest) := by
    simp
  rw [htext, enclosed, if_pos rfl, upToClose_enclosed h hclose]
  rfl

theorem scans_literal (inner : List Char) : Scans literal (.literal inner) :=
  fun hvalid rest _ => enclosed_text hvalid (by decide) rest

theorem scans_argument (inner : List Char) : Scans argument (.brackets inner) :=
  fun hvalid rest _ => enclosed_text hvalid (by decide) rest

theorem scans_charset {inner : List Char} (h : Enclosed ']' isInline inner) :
    Scans charset (.brackets inner) :=
  fun _ rest _ => enclosed_text h (by decide) rest

/-- Brackets that break a line are no character set. -/
theorem charset_broken {inner : List Char} (hvalid : (Lexeme.brackets inner).Valid)
    (h : ¬ Enclosed ']' isInline inner) (rest : List Char) :
    charset ((Lexeme.brackets inner).text ++ rest) = none := by
  have htext : (Lexeme.brackets inner).text ++ rest = '[' :: (inner ++ ']' :: rest) := by
    simp [Lexeme.text]
  rw [htext, charset, enclosed, if_pos rfl, upToClose_broken hvalid h]
  rfl

theorem scans_code (inner : List Char) : Scans code (.code inner) := by
  intro hvalid rest _
  have htext : (Lexeme.code inner).text ++ rest = '{' :: (inner ++ '}' :: rest) := by
    simp [Lexeme.text]
  have hclose : braces 1 ('}' :: rest) = some (['}'], rest) := rfl
  rw [htext, code, if_pos rfl, braces_append hvalid (Nat.le_refl _), hclose]
  rfl

theorem scans_options (inner : List Char) : Scans options (.options inner) := by
  intro hvalid rest _
  have htext : (Lexeme.options inner).text ++ rest = '<' :: (inner ++ '>' :: rest) := by
    simp [Lexeme.text]
  have hinner : ∀ c ∈ inner, (decide (c ≠ '<') && decide (c ≠ '>')) = true := by
    intro c hc
    rw [Bool.and_eq_true, decide_eq_true_eq, decide_eq_true_eq]
    exact hvalid c hc
  have hclose : ∀ c ∈ ('>' :: rest).head?, (decide (c ≠ '<') && decide (c ≠ '>')) = false := by
    rintro c ⟨⟩
    rfl
  rw [htext, options, if_pos rfl, run_stops hinner hclose]
  rfl

theorem suffix_greedy {c : Char} (hc : c = '?' ∨ c = '*' ∨ c = '+') {rest : List Char}
    (hrest : ∀ d ∈ rest.head?, d ≠ '?') : suffix (c :: rest) = some ([c], rest) := by
  rw [suffix, if_pos hc]
  rintro more rfl
  exact hrest '?' rfl rfl

theorem scans_suffix (times : Repetition) (greedy : Bool) :
    Scans suffix (.suffix times greedy) := by
  intro _ rest hapart
  cases greedy with
  | false => cases times <;> rfl
  | true =>
    have hrest : ∀ d ∈ rest.head?, d ≠ '?' := by
      rintro d hd rfl
      cases hapart '?' hd
    cases times with
    | optional => exact suffix_greedy (.inl rfl) hrest
    | oneOrMore => exact suffix_greedy (.inr (.inr rfl)) hrest
    | zeroOrMore => exact suffix_greedy (.inr (.inl rfl)) hrest

theorem scans_wildcard : Scans wildcard .wildcard := by
  intro _ rest hapart
  show wildcard ('.' :: rest) = _
  unfold wildcard
  split
  · rename_i heq
    cases heq
    cases hapart '.' rfl
  · rename_i heq
    cases heq
    rfl
  · rename_i hnot
    exact absurd rfl (hnot rest)

theorem exactly_append (word rest : List Char) :
    exactly word (word ++ rest) = some (word, rest) := by
  induction word with
  | nil => rfl
  | cons c word ih =>
    rw [List.cons_append, exactly, if_pos rfl, ih]
    rfl

/-- A fixed text is read where it stands, and nowhere else. -/
theorem eq_of_exactly {word s text rest : List Char} (h : exactly word s = some (text, rest)) :
    text = word ∧ s = word ++ rest := by
  induction word generalizing s text with
  | nil =>
    cases h
    exact ⟨rfl, rfl⟩
  | cons k word ih =>
    cases s with
    | nil => cases h
    | cons c s =>
      rw [exactly] at h
      split at h
      · rename_i hk
        obtain ⟨⟨text', rest'⟩, hscan, hall⟩ := Option.map_eq_some_iff.mp h
        cases hall
        obtain ⟨rfl, rfl⟩ := ih hscan
        exact ⟨by rw [hk], by rw [hk]; rfl⟩
      · cases h

/-- A fixed text of name characters that is read at the beginning of some stays among them. -/
theorem exactly_in_name {word more s text rest : List Char}
    (hword : ∀ c ∈ word, isNameChar c = true) (hs : ∀ c ∈ s.head?, isNameChar c = false)
    (h : exactly word (more ++ s) = some (text, rest)) :
    ∃ extra, more = word ++ extra ∧ rest = extra ++ s := by
  obtain ⟨-, hsplit⟩ := eq_of_exactly h
  rcases List.append_eq_append_iff.mp hsplit with ⟨beyond, hbeyond, rfl⟩ | ⟨extra, hmore, hrest⟩
  · -- what the text takes beyond the name is no name character
    cases beyond with
    | nil =>
      rw [List.append_nil] at hbeyond
      exact ⟨[], by rw [hbeyond, List.append_nil], rfl⟩
    | cons c beyond =>
      have hname := hword c (hbeyond ▸ List.mem_append_right _ List.mem_cons_self)
      rw [hs c rfl] at hname
      cases hname
  · exact ⟨extra, hmore, hrest⟩

theorem scans_exactly (w : String) : Scans (exactly w.toList) (.sign w) :=
  fun _ rest _ => exactly_append w.toList rest

/-- A word that is written like a name. -/
theorem scans_exactly_name {w : List Char} {first : Char} {more : List Char}
    (h : w = first :: more) : Scans (exactly w) (.name first more) := by
  subst h
  exact fun _ rest _ => exactly_append _ rest

theorem scans_labelSign {w : String} (h : w = "=" ∨ w = "+=") : Scans labelSign (.sign w) := by
  rcases h with rfl | rfl <;> exact fun _ rest _ => rfl

end Scan

end GrammarManual.G4
