import GrammarManual.Proofs.Spelling
import GrammarManual.Proofs.Walk
import GrammarManual.Proofs.Written

/-!
# Proofs/Consumed: readers go forward through one text

* `Cursor.In` -- a place in a text: what is behind and what is ahead make up the text;
* `Scan.Splits` -- what a scan takes and what it leaves make up what it was given;
* `Reader.Stays` -- whatever a reader gives, it ends at a place of the text it began in;
* `Expr.CopiedFrom` -- what an expression quotes has no characters but those of the text;
* **`stands_of_read`** -- every rule of a grammar that was read has its name in the text, on the
  line it is said to have;
* **`copied_of_read`** -- what the rules quote is copied from the text.
-/

namespace GrammarManual

/-- The text that an expression quotes, if it is a literal or a character set. -/
def Expr.quoted? : Expr → Option String
  | .literal text => some text
  | .charset text => some text
  | _ => none

/-- What an expression quotes is copied from a text. -/
def Expr.CopiedFrom (text : List Char) (e : Expr) : Prop :=
  ∀ leaf ∈ e.leaves, ∀ quoted, leaf.quoted? = some quoted → quoted.toList ⊆ text

namespace G4

/-! ## 1. Places -/

/-- A cursor stands in a text: as many characters are behind it as its position says, and they and
    the characters ahead are the text. -/
def Cursor.In (c : Cursor) (text : List Char) : Prop :=
  ∃ behind, text = behind ++ c.rest ∧ c.position = behind.length

variable {text : List Char}

theorem start_in (text : List Char) : (Cursor.start text).In text := ⟨[], rfl, rfl⟩

/-- The place behind some of the characters ahead. -/
theorem Cursor.In.over {n : Nat} {taken rest : List Char}
    (h : Cursor.In ⟨n, taken ++ rest⟩ text) : Cursor.In ⟨n + taken.length, rest⟩ text := by
  obtain ⟨behind, htext, hn⟩ := h
  refine ⟨behind ++ taken, ?_, ?_⟩
  · rw [List.append_assoc]
    exact htext
  · have hn' : n = behind.length := hn
    show n + taken.length = (behind ++ taken).length
    rw [List.length_append, hn']

theorem Cursor.In.next {n : Nat} {c : Char} {rest : List Char}
    (h : Cursor.In ⟨n, c :: rest⟩ text) : Cursor.In ⟨n + 1, rest⟩ text := by
  have h' : Cursor.In ⟨n, [c] ++ rest⟩ text := h
  exact h'.over

/-- The place to which skipping would go back. -/
def Skipping.opening? : Skipping → Option Cursor
  | .slash opening | .block opening | .star opening => some opening
  | .blanks | .line => none

theorem skip_in {state : Skipping} {n : Nat} {s : List Char} (h : Cursor.In ⟨n, s⟩ text)
    (hopening : ∀ o, state.opening? = some o → o.In text) : (skip state n s).In text := by
  fun_induction skip state n s with
  | case1 | case4 | case9 => exact h
  | case5 opening | case8 opening | case12 opening | case15 opening => exact hopening opening rfl
  | case2 n c rest _ ih | case11 n c rest _ ih => exact ih h.next nofun
  | case6 opening n rest ih | case16 opening n rest ih => exact ih h.next nofun
  | case10 n rest ih => exact ih h.next nofun
  | case3 n rest _ ih =>
    -- a comment may begin here: this place is the one to go back to
    refine ih h.next fun o ho => ?_
    cases ho
    exact h
  | case7 opening n rest _ ih | case13 opening n rest ih | case17 opening n rest _ ih =>
    refine ih h.next fun o ho => ?_
    cases ho
    exact hopening opening rfl
  | case14 opening n c rest _ ih | case18 opening n c rest _ _ ih =>
    refine ih h.next fun o ho => ?_
    cases ho
    exact hopening opening rfl

theorem skipBlank_in {c : Cursor} (h : c.In text) : (skipBlank c).In text := skip_in h nofun

/-! ## 2. Scans -/

namespace Scan

/-- What a scan takes and what it leaves make up what it was given. -/
def Splits (scan : List Char → Option (List Char × List Char)) : Prop :=
  ∀ s taken rest, scan s = some (taken, rest) → s = taken ++ rest

/-- A scan that takes one character and leaves the rest to another scan. -/
theorem eq_of_map_cons {scanned : Option (List Char × List Char)} {c : Char}
    {s taken rest : List Char} (hs : ∀ taken rest, scanned = some (taken, rest) → s = taken ++ rest)
    (h : scanned.map (fun (taken, rest) => (c :: taken, rest)) = some (taken, rest)) :
    c :: s = taken ++ rest := by
  obtain ⟨⟨taken', rest'⟩, hscan, h⟩ := Option.map_eq_some_iff.mp h
  have hsplit := hs taken' rest' hscan
  cases h
  rw [hsplit]
  rfl

theorem splits_exactly (word : List Char) : Splits (exactly word) := by
  intro s taken rest h
  obtain ⟨rfl, hs⟩ := eq_of_exactly h
  exact hs

theorem run_append (p : Char → Bool) (s : List Char) : (run p s).1 ++ (run p s).2 = s :=
  List.takeWhile_append_dropWhile

theorem splits_name (first : Char → Bool) : Splits (name first) := by
  intro s taken rest h
  cases s with
  | nil => cases h
  | cons c s =>
    rw [name] at h
    split at h
    · cases h
      exact congrArg (c :: ·) (run_append isNameChar s).symm
    · cases h

theorem splits_digits : Splits digits := by
  intro s taken rest h
  have hrun := run_append Char.isDigit s
  unfold digits at h
  split at h
  · cases h
  · rename_i taken' rest' _ hr
    cases h
    rw [hr] at hrun
    exact hrun.symm

theorem splits_upToClose (close : Char) (allowed : Char → Bool) :
    Splits (upToClose close allowed) := by
  intro s taken rest h
  fun_induction upToClose close allowed s generalizing taken rest with
  | case1 => cases h
  | case2 => cases h
  | case3 c more _ ih =>
    obtain ⟨⟨taken', rest'⟩, hm, h⟩ := Option.map_eq_some_iff.mp h
    have hsplit := ih taken' rest' hm
    cases h
    rw [hsplit]
    rfl
  | case4 =>
    cases h
    rfl
  | case5 c more _ _ _ ih => exact eq_of_map_cons ih h
  | case6 => cases h

theorem splits_enclosed (opening close : Char) (allowed : Char → Bool) :
    Splits (enclosed opening close allowed) := by
  intro s taken rest h
  cases s with
  | nil => cases h
  | cons c s =>
    rw [enclosed] at h
    split at h
    · exact eq_of_map_cons (splits_upToClose close allowed s) h
    · cases h

theorem splits_braces (depth : Nat) : Splits (braces depth) := by
  intro s taken rest h
  induction s generalizing depth taken rest with
  | nil =>
    rw [braces] at h
    cases h
  | cons c s ih =>
    have hgo : ∀ d, (braces d s).map (fun (taken, rest) => (c :: taken, rest)) = some (taken, rest) →
        c :: s = taken ++ rest := by
      intro d hd
      exact eq_of_map_cons (ih d) hd
    cases depth with
    | zero =>
      cases h
      rfl
    | succ depth =>
      unfold braces at h
      dsimp only at h
      split at h
      · split at h
        · exact hgo _ h
        · cases h
      · split at h
        · split at h
          · cases h
            rfl
          · exact hgo _ h
        · exact hgo _ h

theorem splits_code : Splits code := by
  intro s taken rest h
  cases s with
  | nil => cases h
  | cons c s =>
    rw [code] at h
    split at h
    · exact eq_of_map_cons (splits_braces 1 s) h
    · cases h

theorem splits_options : Splits options := by
  intro s taken rest h
  cases s with
  | nil => cases h
  | cons c s =>
    rw [options] at h
    split at h
    · split at h
      · rename_i inner rest' hr
        cases h
        have hrun := run_append (fun d => d ≠ '<' && d ≠ '>') s
        rw [hr] at hrun
        rw [← hrun]
        simp
      · cases h
    · cases h

theorem splits_labelSign : Splits labelSign := by
  intro s taken rest h
  unfold labelSign at h
  split at h <;> cases h <;> rfl

theorem splits_suffix : Splits suffix := by
  intro s taken rest h
  cases s with
  | nil => cases h
  | cons c s =>
    unfold suffix at h
    dsimp only at h
    split at h
    · split at h <;> cases h <;> rfl
    · cases h

theorem splits_wildcard : Splits wildcard := by
  intro s taken rest h
  unfold wildcard at h
  split at h <;> cases h
  rfl

end Scan

/-! ## 3. Readers -/

namespace Reader

variable {α β : Type} {P : α → Prop}

/-- Begun in a text, a reader ends in it, and what it gives has a property. -/
def StaysWith (text : List Char) (p : Reader α) (P : α → Prop) : Prop :=
  ∀ c a c', c.In text → (p c).result = some (a, c') → c'.In text ∧ P a

/-- Begun in a text, a reader ends in it. -/
abbrev Stays (text : List Char) (p : Reader α) : Prop := StaysWith text p fun _ => True

theorem StaysWith.stays {p : Reader α} (h : StaysWith text p P) : Stays text p :=
  fun c a c' hc hr => ⟨(h c a c' hc hr).1, trivial⟩

theorem staysWith_pure {a : α} (h : P a) : StaysWith text (Pure.pure a : Reader α) P := by
  intro c b c' hc hr
  have hr' : some (a, c) = some (b, c') := hr
  cases hr'
  exact ⟨hc, h⟩

theorem stays_pure {a : α} : Stays text (Pure.pure a : Reader α) := staysWith_pure trivial

/-- What one reader after another gives. -/
theorem result_bind (p : Reader α) (f : α → Reader β) (c : Cursor) :
    ((p >>= f) c).result = (p c).result.bind fun x => (f x.1 x.2).result := by
  show (Reader.bind p f c).result = _
  unfold Reader.bind
  rcases p c with ⟨result, n⟩
  cases result <;> rfl

theorem result_bind_eq_some {p : Reader α} {f : α → Reader β} {c c' : Cursor} {b : β}
    (h : ((p >>= f) c).result = some (b, c')) :
    ∃ a c₁, (p c).result = some (a, c₁) ∧ (f a c₁).result = some (b, c') := by
  rw [result_bind] at h
  obtain ⟨⟨a, c₁⟩, hp, hf⟩ := Option.bind_eq_some_iff.mp h
  exact ⟨a, c₁, hp, hf⟩

/-- What the one or the other of two readers gives. -/
theorem result_or (p q : Reader α) (c : Cursor) :
    (p.or q c).result = (p c).result.or (q c).result := by
  unfold Reader.or
  rcases p c with ⟨result, n⟩
  cases result <;> rfl

theorem result_or_eq_some {p q : Reader α} {c : Cursor} {x : α × Cursor}
    (h : (p.or q c).result = some x) : (p c).result = some x ∨ (q c).result = some x := by
  rw [result_or, Option.or_eq_some_iff] at h
  exact h.imp_right And.right

/-- What the first reader of a list gives that gives something. -/
theorem result_firstOf_eq_some {ps : List (Reader α)} {c : Cursor} {x : α × Cursor}
    (h : (firstOf ps c).result = some x) : ∃ p ∈ ps, (p c).result = some x := by
  induction ps with
  | nil => cases h
  | cons p ps ih =>
    cases ps with
    | nil => exact ⟨p, List.mem_cons_self, h⟩
    | cons q qs =>
      rcases result_or_eq_some h with hp | hps
      · exact ⟨p, List.mem_cons_self, hp⟩
      · obtain ⟨r, hr, hx⟩ := ih hps
        exact ⟨r, List.mem_cons_of_mem _ hr, hx⟩

theorem result_firstOf {ps : List (Reader α)} {c : Cursor} (h : ∀ p ∈ ps, (p c).result = none) :
    (firstOf ps c).result = none := by
  cases hresult : (firstOf ps c).result with
  | none => rfl
  | some x =>
    obtain ⟨p, hp, hx⟩ := result_firstOf_eq_some hresult
    rw [h p hp] at hx
    cases hx

theorem result_optional_eq_some {p : Reader α} {c c' : Cursor} {o : Option α}
    (h : (p.optional c).result = some (o, c')) :
    (∃ a, o = some a ∧ (p c).result = some (a, c')) ∨ (o = none ∧ c' = c) := by
  rcases result_or_eq_some h with h | h
  · obtain ⟨a, c₁, hread, hpure⟩ := result_bind_eq_some h
    cases hpure
    exact .inl ⟨a, rfl, hread⟩
  · cases h
    exact .inr ⟨rfl, rfl⟩

theorem StaysWith.bind {p : Reader α} {f : α → Reader β} {R : β → Prop} (hp : StaysWith text p P)
    (hf : ∀ a, P a → StaysWith text (f a) R) : StaysWith text (p >>= f) R := by
  intro c b c' hc hr
  obtain ⟨a, c₁, hpr, hfr⟩ := result_bind_eq_some hr
  obtain ⟨hc₁, ha⟩ := hp c a c₁ hc hpr
  exact hf a ha c₁ b c' hc₁ hfr

/-- One reader after another, where the first may give anything. -/
theorem StaysWith.then {p : Reader α} {f : α → Reader β} {R : β → Prop} (hp : Stays text p)
    (hf : ∀ a, StaysWith text (f a) R) : StaysWith text (p >>= f) R :=
  StaysWith.bind hp fun a _ => hf a

theorem StaysWith.or {p q : Reader α} (hp : StaysWith text p P) (hq : StaysWith text q P) :
    StaysWith text (p.or q) P := by
  intro c a c' hc hr
  rcases result_or_eq_some hr with hr | hr
  · exact hp c a c' hc hr
  · exact hq c a c' hc hr

theorem staysWith_fail : StaysWith text (fail : Reader α) P := fun _ _ _ _ hr => nomatch hr

theorem staysWith_firstOf {ps : List (Reader α)} (h : ∀ p ∈ ps, StaysWith text p P) :
    StaysWith text (firstOf ps) P := by
  intro c a c' hc hr
  obtain ⟨p, hp, hread⟩ := result_firstOf_eq_some hr
  exact h p hp c a c' hc hread

theorem StaysWith.optional {p : Reader α} (h : StaysWith text p P) :
    StaysWith text p.optional fun o => ∀ a, o = some a → P a := by
  refine StaysWith.or (h.bind fun a ha => staysWith_pure ?_) (staysWith_pure nofun)
  rintro b ⟨rfl⟩
  exact ha

theorem StaysWith.upTo {p : Reader α} (h : StaysWith text p P) (n : Nat) :
    StaysWith text (Reader.upTo p n) fun as => ∀ a ∈ as, P a := by
  induction n with
  | zero => exact staysWith_pure nofun
  | succ n ih =>
    refine h.optional.bind fun o ho => ?_
    cases o with
    | none => exact staysWith_pure nofun
    | some a =>
      refine ih.bind fun as has => staysWith_pure fun b hb => ?_
      rcases List.mem_cons.mp hb with rfl | hb
      · exact ho b rfl
      · exact has b hb

theorem StaysWith.many {p : Reader α} (h : StaysWith text p P) :
    StaysWith text (Reader.many p) fun as => ∀ a ∈ as, P a :=
  fun c as c' hc hr => h.upTo _ c as c' hc hr

theorem Stays.optional {p : Reader α} (h : Stays text p) : Stays text p.optional :=
  (StaysWith.optional h).stays

theorem Stays.many {p : Reader α} (h : Stays text p) : Stays text (Reader.many p) :=
  (StaysWith.many h).stays

/-- Looking ahead leads nowhere. -/
theorem stays_ahead (p : Reader α) : Stays text (ahead p) := by
  intro c a c' hc hr
  have hr' : some ((p c).result.isSome, c) = some (a, c') := hr
  cases hr'
  exact ⟨hc, trivial⟩

/-- A token is copied from the text. -/
theorem staysWith_token {scan : List Char → Option (List Char × List Char)}
    (hs : Scan.Splits scan) : StaysWith text (token scan) fun a => a.toList ⊆ text := by
  intro c a c' hc hr
  have hskip := skipBlank_in hc
  unfold token at hr
  dsimp only at hr
  split at hr
  · rename_i taken rest hscan
    cases hr
    have hsplit := hs _ _ _ hscan
    generalize skipBlank c = c₁ at hskip hsplit ⊢
    obtain ⟨position, ahead⟩ := c₁
    have hahead : ahead = taken ++ rest := hsplit
    rw [hahead] at hskip
    refine ⟨hskip.over, ?_⟩
    obtain ⟨behind, htext, -⟩ := hskip
    rw [String.toList_ofList, htext]
    exact fun c hc => List.mem_append_right _ (List.mem_append_left _ hc)
  · cases hr

theorem stays_token {scan : List Char → Option (List Char × List Char)}
    (hs : Scan.Splits scan) : Stays text (token scan) := (staysWith_token hs).stays

theorem stays_ending : Stays text ending := by
  intro c a c' hc hr
  have hskip := skipBlank_in hc
  unfold ending at hr
  dsimp only at hr
  split at hr
  · cases hr
    exact ⟨hskip, trivial⟩
  · cases hr

end Reader

open Reader

variable {α : Type}

theorem stays_word (w : String) : Stays text (word w) := stays_token (Scan.splits_exactly _)

theorem stays_identifier : Stays text identifier :=
  StaysWith.or (stays_token (Scan.splits_name _)) (stays_token (Scan.splits_name _))

theorem staysWith_separated {p : Reader α} {P : α → Prop} (separator : String)
    (h : StaysWith text p P) : StaysWith text (separated separator p) fun as => ∀ a ∈ as, P a :=
  h.bind fun _ hfirst => (StaysWith.then (stays_word _) fun _ => h).many.bind fun _ hmore =>
    staysWith_pure (List.forall_mem_cons.mpr ⟨hfirst, hmore⟩)

theorem stays_separated {p : Reader α} (separator : String) (h : Stays text p) :
    Stays text (separated separator p) := (staysWith_separated separator h).stays

theorem stays_code : Stays text (token Scan.code) := stays_token Scan.splits_code

theorem stays_argument : Stays text (token Scan.argument) :=
  stays_token (Scan.splits_enclosed _ _ _)

/-! ## 4. Bodies -/

theorem stays_elementOptions : Stays text elementOptions :=
  StaysWith.then (Stays.optional (stays_token Scan.splits_options)) fun _ => stays_pure

theorem mem_leavesAll {es : List Expr} {leaf : Expr} (h : leaf ∈ Expr.leavesAll es) :
    ∃ e ∈ es, leaf ∈ e.leaves := by
  rw [Expr.leavesAll_eq_flatMap] at h
  exact List.mem_flatMap.mp h

/-- What several expressions quote is copied if what each quotes is. -/
theorem copied_all {es : List Expr} (h : ∀ e ∈ es, e.CopiedFrom text) :
    ∀ leaf ∈ Expr.leavesAll es, ∀ quoted, leaf.quoted? = some quoted → quoted.toList ⊆ text := by
  intro leaf hleaf
  obtain ⟨e, he, hmem⟩ := mem_leavesAll hleaf
  exact h e he leaf hmem

/-- An expression that quotes no more than one text. -/
theorem copied_leaf {e : Expr} (hleaves : e.leaves = [e])
    (h : ∀ quoted, e.quoted? = some quoted → quoted.toList ⊆ text) : e.CopiedFrom text := by
  intro leaf hleaf
  rw [hleaves] at hleaf
  rw [List.mem_singleton.mp hleaf]
  exact h

/-- An expression that quotes nothing. -/
theorem copied_plain {e : Expr} (hleaves : e.leaves = [e]) (h : e.quoted? = none) :
    e.CopiedFrom text :=
  copied_leaf hleaves fun quoted hquoted => by
    rw [h] at hquoted
    cases hquoted

theorem copied_literal {quoted : String} (h : quoted.toList ⊆ text) :
    (Expr.literal quoted).CopiedFrom text := copied_leaf rfl (by rintro _ ⟨⟩; exact h)

theorem staysWith_literalToken :
    StaysWith text (token Scan.literal) fun quoted => quoted.toList ⊆ text :=
  staysWith_token (Scan.splits_enclosed _ _ _)

theorem staysWith_range : StaysWith text range (Expr.CopiedFrom text) :=
  staysWith_literalToken.bind fun _ hfirst => .then (stays_word _) fun _ =>
    staysWith_literalToken.bind fun _ hlast => staysWith_pure fun leaf hleaf => by
      rcases List.mem_append.mp hleaf with hleaf | hleaf
      · exact copied_literal hfirst leaf hleaf
      · exact copied_literal hlast leaf hleaf

theorem staysWith_literal : StaysWith text literal (Expr.CopiedFrom text) :=
  staysWith_literalToken.bind fun _ h => .then stays_elementOptions fun _ =>
    staysWith_pure (copied_literal h)

theorem staysWith_tokenReference : StaysWith text tokenReference (Expr.CopiedFrom text) :=
  StaysWith.then (stays_token (Scan.splits_name _)) fun _ =>
    .then stays_elementOptions fun _ => staysWith_pure (copied_plain rfl rfl)

theorem staysWith_charset : StaysWith text charset (Expr.CopiedFrom text) := by
  refine (staysWith_token (Scan.splits_enclosed _ _ _)).bind fun brackets h =>
    staysWith_pure (copied_leaf rfl ?_)
  rintro _ ⟨⟩ c hc
  rw [inside, String.toList_ofList] at hc
  exact h (List.mem_of_mem_drop (List.dropLast_subset _ hc))

theorem staysWith_wildcard : StaysWith text wildcard (Expr.CopiedFrom text) :=
  StaysWith.then (stays_token Scan.splits_wildcard) fun _ =>
    .then stays_elementOptions fun _ => staysWith_pure (copied_plain rfl rfl)

theorem stays_argumentAhead (first : Bool) : Stays text (argumentAhead first) := by
  refine StaysWith.then (stays_ahead _) fun argument => ?_
  cases argument with
  | false => exact stays_pure
  | true =>
    cases first with
    | true => exact stays_pure
    | false =>
      refine StaysWith.then (stays_ahead _) fun charset => ?_
      cases charset with
      | false => exact stays_pure
      | true => exact stays_ahead _

theorem staysWith_ruleReference (first : Bool) :
    StaysWith text (ruleReference first) (Expr.CopiedFrom text) := by
  refine StaysWith.then (stays_token (Scan.splits_name _)) fun name =>
    .then (stays_argumentAhead first) fun argument => ?_
  have hname : StaysWith text (elementOptions >>= fun _ => Pure.pure (.reference name))
      (Expr.CopiedFrom text) :=
    .then stays_elementOptions fun _ => staysWith_pure (copied_plain rfl rfl)
  cases argument with
  | false => exact hname
  | true => exact .then stays_argument fun _ => hname

theorem staysWith_setMember : StaysWith text setMember (Expr.CopiedFrom text) := by
  refine staysWith_firstOf fun p hp => ?_
  simp only [List.mem_cons, List.not_mem_nil, or_false] at hp
  rcases hp with rfl | rfl | rfl | rfl
  · exact staysWith_range
  · exact staysWith_literal
  · exact staysWith_tokenReference
  · exact staysWith_charset

theorem staysWith_negated : StaysWith text negated (Expr.CopiedFrom text) := by
  refine StaysWith.then (stays_word _) fun _ =>
    (StaysWith.or staysWith_setMember ?_).bind fun _ h => staysWith_pure h
  exact .then (stays_word _) fun _ => (staysWith_separated _ staysWith_setMember).bind fun _ h =>
    .then (stays_word _) fun _ => staysWith_pure (copied_all h)

theorem staysWith_atom (first : Bool) : StaysWith text (atom first) (Expr.CopiedFrom text) := by
  refine staysWith_firstOf fun p hp => ?_
  simp only [List.mem_cons, List.not_mem_nil, or_false] at hp
  rcases hp with rfl | rfl | rfl | rfl | rfl | rfl | rfl
  · exact staysWith_range
  · exact staysWith_literal
  · exact staysWith_tokenReference
  · exact staysWith_ruleReference first
  · exact staysWith_negated
  · exact staysWith_wildcard
  · exact staysWith_charset

theorem stays_suffix : Stays text suffix :=
  Stays.optional (stays_token Scan.splits_suffix)

theorem copied_withSuffix {e : Expr} (h : e.CopiedFrom text) (suffix : Option String) :
    (withSuffix e suffix).CopiedFrom text := by
  unfold withSuffix
  split
  · exact h
  · exact h

theorem staysWith_element {block : Reader Expr} (hb : StaysWith text block (Expr.CopiedFrom text))
    (first : Bool) : StaysWith text (element block first) (Expr.CopiedFrom text) := by
  refine staysWith_firstOf fun p hp => ?_
  simp only [List.mem_cons, List.not_mem_nil, or_false] at hp
  rcases hp with rfl | rfl | rfl | rfl | rfl
  · exact .then stays_identifier fun _ => .then (stays_token Scan.splits_labelSign) fun _ =>
      (StaysWith.or (staysWith_atom first) hb).bind fun _ h => .then stays_suffix fun s =>
        staysWith_pure (copied_withSuffix h s)
  · exact (staysWith_atom first).bind fun _ h => .then stays_suffix fun s =>
      staysWith_pure (copied_withSuffix h s)
  · exact hb.bind fun _ h => .then stays_suffix fun s => staysWith_pure (copied_withSuffix h s)
  · exact .then stays_code fun _ => .then (stays_word _) fun _ =>
      staysWith_pure (copied_plain rfl rfl)
  · exact .then stays_code fun _ => staysWith_pure (copied_plain rfl rfl)

theorem stays_lexerCommand : Stays text lexerCommand := by
  refine StaysWith.then stays_identifier fun _ => .then (Stays.optional ?_) fun _ =>
    stays_pure
  exact .then (stays_word _) fun _ =>
    .then (StaysWith.or stays_identifier (stays_token Scan.splits_digits)) fun _ =>
      .then (stays_word _) fun _ => stays_pure

theorem staysWith_lexerCommands : StaysWith text lexerCommands (Expr.CopiedFrom text) :=
  StaysWith.then (stays_word _) fun _ =>
    .then (stays_separated _ stays_lexerCommand) fun _ => staysWith_pure (copied_plain rfl rfl)

theorem staysWith_elements {block : Reader Expr}
    (hb : StaysWith text block (Expr.CopiedFrom text)) :
    StaysWith text (elements block) fun es => ∀ e ∈ es, e.CopiedFrom text := by
  refine (staysWith_element hb true).optional.bind fun first hfirst => ?_
  cases first with
  | none => exact staysWith_pure nofun
  | some e =>
    exact (staysWith_element hb false).many.bind fun _ hmore =>
      staysWith_pure (List.forall_mem_cons.mpr ⟨hfirst e rfl, hmore⟩)

theorem staysWith_alternative {block : Reader Expr}
    (hb : StaysWith text block (Expr.CopiedFrom text)) :
    StaysWith text (alternative block) (Expr.CopiedFrom text) :=
  StaysWith.then stays_elementOptions fun _ => (staysWith_elements hb).bind fun _ hes =>
    staysWith_lexerCommands.optional.bind fun _ hcommands =>
      .then (Stays.optional (.then (stays_word _) fun _ => stays_identifier)) fun _ =>
        staysWith_pure (copied_all (List.forall_mem_append.mpr
          ⟨hes, fun e he => hcommands e (Option.mem_toList.mp he)⟩))

theorem staysWith_alternatives {block : Reader Expr}
    (hb : StaysWith text block (Expr.CopiedFrom text)) :
    StaysWith text (alternatives block) (Expr.CopiedFrom text) :=
  (staysWith_separated _ (staysWith_alternative hb)).bind fun _ h => staysWith_pure (copied_all h)

theorem stays_optionsSpec : Stays text optionsSpec :=
  StaysWith.then (stays_word _) fun _ => .then stays_code fun _ => stays_pure

theorem staysWith_block (depth : Nat) : StaysWith text (block depth) (Expr.CopiedFrom text) := by
  induction depth with
  | zero => exact staysWith_fail
  | succ depth ih =>
    exact .then (stays_word _) fun _ =>
      .then (Stays.optional (.then stays_optionsSpec fun _ => stays_word _)) fun _ =>
        (staysWith_alternatives ih).bind fun _ h => .then (stays_word _) fun _ => staysWith_pure h

/-! ## 5. Declarations and files -/

theorem stays_namedAction : Stays text namedAction :=
  StaysWith.then (stays_word _) fun _ => .then stays_identifier fun _ =>
    .then (Stays.optional (.then (stays_word _) fun _ => stays_identifier)) fun _ =>
      .then stays_code fun _ => stays_pure

theorem stays_ruleHeader : Stays text ruleHeader := by
  refine staysWith_firstOf fun p hp => ?_
  simp only [List.mem_cons, List.not_mem_nil, or_false] at hp
  rcases hp with rfl | rfl | rfl | rfl | rfl | rfl
  · exact .then stays_argument fun _ => stays_pure
  · exact .then (stays_word _) fun _ => .then stays_argument fun _ => stays_pure
  · exact .then (stays_word _) fun _ => .then stays_argument fun _ => stays_pure
  · exact .then (stays_word _) fun _ => .then (stays_separated _ stays_identifier) fun _ =>
      stays_pure
  · exact stays_optionsSpec
  · exact stays_namedAction

theorem stays_exceptionHandler : Stays text exceptionHandler := by
  refine staysWith_firstOf fun p hp => ?_
  simp only [List.mem_cons, List.not_mem_nil, or_false] at hp
  rcases hp with rfl | rfl
  · exact .then (stays_word _) fun _ => .then stays_argument fun _ => .then stays_code fun _ =>
      stays_pure
  · exact .then (stays_word _) fun _ => .then stays_code fun _ => stays_pure

/-- A name, which begins with a letter, stands at a place of a text. -/
def StandsAt (text : List Char) (name : String) (position : Nat) : Prop :=
  ∃ before c more after, text = before ++ c :: (more ++ after) ∧ position = before.length ∧
    name.toList = c :: more ∧ c.isAlpha = true

theorem standsAt_of_token {first : Char → Bool} (hfirst : ∀ c, first c = true → c.isAlpha = true)
    {c c' : Cursor} {name : String} (hc : c.In text)
    (h : (token (Scan.name first) c).result = some (name, c')) :
    StandsAt text name (skipBlank c).position := by
  obtain ⟨before, htext, hposition⟩ := skipBlank_in hc
  unfold token at h
  dsimp only at h
  split at h
  · rename_i taken rest hscan
    cases h
    cases hahead : (skipBlank c).rest with
    | nil =>
      rw [hahead] at hscan
      cases hscan
    | cons d ahead =>
      rw [hahead] at hscan htext
      rw [Scan.name] at hscan
      split at hscan
      · rename_i hd
        cases hscan
        refine ⟨before, d, ahead.takeWhile Scan.isNameChar, ahead.dropWhile Scan.isNameChar, ?_,
          hposition, String.toList_ofList, hfirst d hd⟩
        rw [htext, List.takeWhile_append_dropWhile]
      · cases hscan
  · cases h

theorem isAlpha_of_isUpper (c : Char) (h : c.isUpper = true) : c.isAlpha = true := by
  show (c.isUpper || c.isLower) = true
  rw [h, Bool.true_or]

theorem isAlpha_of_isLower (c : Char) (h : c.isLower = true) : c.isAlpha = true := by
  show (c.isUpper || c.isLower) = true
  rw [h, Bool.or_true]

/-- The name of a declaration stands at the place that was noted before it was read. -/
theorem staysWith_declarationHead : StaysWith text declarationHead
    fun head => StandsAt text head.1 head.2 := by
  intro c head c' hc hr
  obtain ⟨position, c₁, hplace, hr⟩ := result_bind_eq_some hr
  cases hplace
  obtain ⟨name, c₁, hname, hr⟩ := result_bind_eq_some hr
  have hc₁ := (stays_identifier c name c₁ hc hname).1
  have hstands : StandsAt text name (skipBlank c).position := by
    unfold identifier Reader.or at hname
    split at hname
    · rename_i x n hupper
      have hread : (token Scan.upperName c).result = some (name, c₁) := by
        cases hname
        exact congrArg Reading.result hupper
      exact standsAt_of_token isAlpha_of_isUpper hc hread
    · exact standsAt_of_token isAlpha_of_isLower hc hname
  have hrest : StaysWith text
      (do let _ ← many ruleHeader; let _ ← word ":"; return (name, (skipBlank c).position))
      fun head => StandsAt text head.1 head.2 :=
    .then (Stays.many stays_ruleHeader) fun _ => .then (stays_word _) fun _ =>
      staysWith_pure hstands
  exact hrest c₁ head c' hc₁ hr

/-- A declaration has its name where it is said to be, and what its body quotes is copied. -/
theorem staysWith_declaration (depth : Nat) : StaysWith text (declaration depth)
    fun d => StandsAt text d.name d.position ∧ d.body.CopiedFrom text := by
  have hhead : StaysWith text
      (Reader.or
        (do let _ ← word "fragment"; return (true, ← declarationHead))
        (do return (false, ← declarationHead)))
      fun (_, head) => StandsAt text head.1 head.2 :=
    StaysWith.or (.then (stays_word _) fun _ => staysWith_declarationHead.bind fun _ h =>
      staysWith_pure h) (staysWith_declarationHead.bind fun _ h => staysWith_pure h)
  refine hhead.bind fun head h => ?_
  exact (staysWith_alternatives (staysWith_block depth)).bind fun _ hbody =>
    .then (stays_word _) fun _ => .then (Stays.many stays_exceptionHandler) fun _ =>
      staysWith_pure ⟨h, hbody⟩

theorem stays_grammarDeclaration : Stays text grammarDeclaration := by
  refine StaysWith.then (Stays.optional (staysWith_firstOf fun p hp => ?_)) fun _ =>
    .then (stays_word _) fun _ => .then stays_identifier fun _ => .then (stays_word _) fun _ =>
      stays_pure
  simp only [List.mem_cons, List.not_mem_nil, or_false] at hp
  rcases hp with rfl | rfl
  · exact .then (stays_word _) fun _ => stays_pure
  · exact .then (stays_word _) fun _ => stays_pure

theorem stays_prequel : Stays text prequel := by
  refine staysWith_firstOf fun p hp => ?_
  simp only [List.mem_cons, List.not_mem_nil, or_false] at hp
  rcases hp with rfl | rfl | rfl | rfl | rfl
  · exact stays_optionsSpec
  · exact .then (stays_word _) fun _ => .then stays_code fun _ => stays_pure
  · exact .then (stays_word _) fun _ => .then stays_code fun _ => stays_pure
  · refine .then (stays_word _) fun _ => .then (stays_separated _ ?_) fun _ =>
      .then (stays_word _) fun _ => stays_pure
    exact .then stays_identifier fun _ =>
      .then (Stays.optional (.then (stays_word _) fun _ => stays_identifier)) fun _ => stays_pure
  · exact stays_namedAction

theorem staysWith_file (depth : Nat) : StaysWith text (file depth)
    fun f => ∀ d ∈ f.declarations,
      StandsAt text d.name d.position ∧ d.body.CopiedFrom text := by
  have hpart : StaysWith text (Reader.or
      (do return some (← declaration depth))
      (do modeSpec; return none))
      fun o => ∀ d, o = some d → StandsAt text d.name d.position ∧ d.body.CopiedFrom text := by
    refine StaysWith.or ((staysWith_declaration depth).bind fun d hd => staysWith_pure ?_) ?_
    · rintro b ⟨rfl⟩
      exact hd
    · exact .then (.then (stays_word _) fun _ => .then stays_identifier fun _ =>
        .then (stays_word _) fun _ => stays_pure) fun _ => staysWith_pure nofun
  refine .then (Stays.optional stays_grammarDeclaration) fun header =>
    .then (Stays.many stays_prequel) fun _ => hpart.many.bind fun parts hparts =>
      .then stays_ending fun _ => staysWith_pure fun d hd => ?_
  obtain ⟨o, ho, hod⟩ := List.mem_filterMap.mp hd
  exact hparts o ho d hod

end G4

/-- A rule has its name in a text, and its line is that of the first letter. -/
def Rule.StandsIn (text : List Char) (r : Rule) : Prop :=
  ∃ before c more after, text = before ++ c :: (more ++ after) ∧ r.name.toList = c :: more ∧
    c.isAlpha = true ∧ r.line = Text.newlines before + 1

/-- The rules that were read are declarations of the text. -/
theorem exists_declaration {text : List Char} {g : Grammar} (h : Grammar.read text = .ok g)
    {r : Rule} (hr : r ∈ g.rules) : ∃ d : G4.Declaration, r = d.toRule text ∧
      G4.StandsAt text d.name d.position ∧ d.body.CopiedFrom text := by
  unfold Grammar.read at h
  dsimp only at h
  split at h
  · rename_i content c hread
    cases h
    obtain ⟨d, hd, rfl⟩ := List.mem_map.mp hr
    exact ⟨d, rfl, (G4.staysWith_file text.length _ content c (G4.start_in text) hread).2 d hd⟩
  · cases h

/-- **Every rule that was read has its name in the text, on its line.** -/
theorem stands_of_read {text : List Char} {g : Grammar} (h : Grammar.read text = .ok g) :
    ∀ r ∈ g.rules, r.StandsIn text := by
  intro r hr
  obtain ⟨d, rfl, hstands, -⟩ := exists_declaration h hr
  obtain ⟨before, a, more, after, htext, hposition, hname, ha⟩ := hstands
  refine ⟨before, a, more, after, htext, hname, ha, ?_⟩
  show ((Text.newlines (text.take d.position) + 1 : Nat) : Int) = _
  rw [hposition, htext, List.take_left]
  rfl

/-- **What a rule that was read quotes is copied from the text.** -/
theorem copied_of_read {text : List Char} {g : Grammar} (h : Grammar.read text = .ok g) :
    ∀ r ∈ g.rules, r.body.CopiedFrom text := by
  intro r hr
  obtain ⟨d, rfl, -, hcopied⟩ := exists_declaration h hr
  exact hcopied

end GrammarManual
