import GrammarManual.Proofs.Notation

/-!
# Proofs/Bodies: atoms are read as they are meant

* `needs_exactly` and its like -- which characters each reader needs;
* `BehindAtom`, `Behind` -- what may follow an atom and an element; `refuses_dots`,
  `refuses_labelSign` and `refuses_argument` say what it is not taken for;
* **`takes_setMember`**, **`takes_ruleReference`**, **`takes_atom`** -- a member of a set, a
  reference and an atom are read as they are meant.
-/

namespace GrammarManual.G4

open Reader

variable {us : List Lexeme}

/-! ## 1. What readers need -/

theorem ne_of_oneOf {k c : Char} (h : oneOf false [k] c = false) : c ≠ k := by
  rintro rfl
  simp [oneOf] at h

theorem exactly_ne {k c : Char} (h : c ≠ k) (ks s : List Char) :
    Scan.exactly (k :: ks) (c :: s) = none := by
  rw [Scan.exactly, if_neg fun hk => h hk.symm]

theorem needs_exactly {w : List Char} {k : Char} {ks : List Char} (hw : w = k :: ks) :
    Needs (token (Scan.exactly w)) (oneOf false [k]) := by
  subst hw
  exact needs_token rfl fun c s hc => exactly_ne (ne_of_oneOf hc) ks s

theorem needs_name {kind : Char → Bool} (hkind : ∀ c, kind c = true → c.isAlpha = true) :
    Needs (token (Scan.name kind)) (oneOf true []) := by
  refine needs_token rfl fun c s hc => ?_
  have hnot : ¬ kind c = true := by
    intro hk
    simp [oneOf, hkind c hk] at hc
  rw [Scan.name, if_neg hnot]

theorem needs_identifier : Needs identifier (oneOf true []) :=
  (needs_name isAlpha_of_isUpper).or (needs_name isAlpha_of_isLower)

theorem needs_enclosed (opening close : Char) (allowed : Char → Bool) :
    Needs (token (Scan.enclosed opening close allowed)) (oneOf false [opening]) :=
  needs_token rfl fun c s hc => by rw [Scan.enclosed, if_neg (ne_of_oneOf hc)]

theorem needs_code : Needs (token Scan.code) (oneOf false ['{']) :=
  needs_token rfl fun c s hc => by rw [Scan.code, if_neg (ne_of_oneOf hc)]

theorem needs_options : Needs (token Scan.options) (oneOf false ['<']) :=
  needs_token rfl fun c s hc => by rw [Scan.options, if_neg (ne_of_oneOf hc)]

theorem needs_suffix : Needs (token Scan.suffix) (oneOf false ['?', '*', '+']) := by
  refine needs_token rfl fun c s hc => ?_
  have hnot : ¬ (c = '?' ∨ c = '*' ∨ c = '+') := by simpa [oneOf] using hc
  unfold Scan.suffix
  exact if_neg hnot

theorem needs_wildcard : Needs (token Scan.wildcard) (oneOf false ['.']) := by
  refine needs_token rfl fun c s hc => ?_
  unfold Scan.wildcard
  split
  · rfl
  · rename_i hcons
    cases hcons
    exact absurd rfl (ne_of_oneOf hc)
  · rfl

/-- The characters that an atom can begin with, but for letters. -/
def atomStarts : List Char := ['\'', '~', '.', '[']

theorem needs_setMember : Needs setMember (oneOf true ['\'', '[']) := by
  refine needs_firstOf fun p hp => ?_
  simp only [List.mem_cons, List.not_mem_nil, or_false] at hp
  rcases hp with rfl | rfl | rfl | rfl
  · exact (needs_enclosed _ _ _).bind.imp (oneOf_mono (by decide) (by decide))
  · exact (needs_enclosed _ _ _).bind.imp (oneOf_mono (by decide) (by decide))
  · exact (needs_name isAlpha_of_isUpper).bind.imp (oneOf_mono id (by decide))
  · exact (needs_enclosed _ _ _).bind.imp (oneOf_mono (by decide) (by decide))

theorem needs_atom (first : Bool) : Needs (atom first) (oneOf true atomStarts) := by
  refine needs_firstOf fun p hp => ?_
  simp only [List.mem_cons, List.not_mem_nil, or_false] at hp
  rcases hp with rfl | rfl | rfl | rfl | rfl | rfl | rfl
  · exact (needs_enclosed _ _ _).bind.imp (oneOf_mono (by decide) (by decide))
  · exact (needs_enclosed _ _ _).bind.imp (oneOf_mono (by decide) (by decide))
  · exact (needs_name isAlpha_of_isUpper).bind.imp (oneOf_mono id (by decide))
  · exact (needs_name isAlpha_of_isLower).bind.imp (oneOf_mono id (by decide))
  · exact (needs_exactly rfl).bind.imp (oneOf_mono (by decide) (by decide))
  · exact needs_wildcard.bind.imp (oneOf_mono (by decide) (by decide))
  · exact (needs_enclosed _ _ _).bind.imp (oneOf_mono (by decide) (by decide))

theorem needs_block (depth : Nat) : Needs (block depth) (oneOf false ['(']) := by
  cases depth with
  | zero => exact needs_fail
  | succ depth => exact (needs_exactly rfl).bind

theorem needs_element (depth : Nat) (first : Bool) :
    Needs (element (block depth) first) (oneOf true ('(' :: '{' :: atomStarts)) := by
  refine needs_firstOf fun p hp => ?_
  simp only [List.mem_cons, List.not_mem_nil, or_false] at hp
  rcases hp with rfl | rfl | rfl | rfl | rfl
  · exact needs_identifier.bind.imp (oneOf_mono id (by decide))
  · exact (needs_atom first).bind.imp (oneOf_mono id (by decide))
  · exact (needs_block depth).bind.imp (oneOf_mono (by decide) (by decide))
  · exact needs_code.bind.imp (oneOf_mono (by decide) (by decide))
  · exact needs_code.bind.imp (oneOf_mono (by decide) (by decide))

/-! ## 2. What may follow -/

/-- Whether a token goes on with the atom before it. -/
def Lexeme.continues : Lexeme → Bool
  | .options _ => true
  | .sign text => text = ".." || text = "=" || text = "+="
  | _ => false

/-- No token of these goes on with the atom before them. -/
def BehindAtom (us : List Lexeme) : Prop := ∀ t ∈ us.head?, t.continues = false

theorem behindAtom_cons {t : Lexeme} {us : List Lexeme} (h : t.continues = false) :
    BehindAtom (t :: us) := by
  rintro _ ⟨⟩
  exact h

theorem BehindAtom.not_dots {us : List Lexeme} (h : BehindAtom us) :
    ∀ t ∈ us.head?, t ≠ .sign ".." := by
  rintro t ht rfl
  cases h _ ht

theorem BehindAtom.not_labelSign {us : List Lexeme} (h : BehindAtom us) :
    ∀ t ∈ us.head?, t ≠ .sign "=" ∧ t ≠ .sign "+=" := by
  intro t ht
  constructor <;> rintro rfl <;> cases h _ ht

/-- What can stand first behind options that may be there. -/
theorem head_options {P : Lexeme → Prop} {us : List Lexeme} (options : Option (List Char))
    (hoptions : ∀ inner, P (.options inner)) (h : ∀ t ∈ us.head?, P t) :
    ∀ t ∈ (optionTokens options ++ us).head?, P t := by
  cases options with
  | none => exact h
  | some inner =>
    rintro _ ⟨⟩
    exact hoptions inner

/-- What can stand first behind a suffix that may be there. -/
theorem head_suffix {P : Lexeme → Prop} {us : List Lexeme} (suffix : Option Suffix)
    (hsuffix : ∀ times greedy, P (.suffix times greedy)) (h : ∀ t ∈ us.head?, P t) :
    ∀ t ∈ (suffixTokens suffix ++ us).head?, P t := by
  cases suffix with
  | none => exact h
  | some s =>
    rintro _ ⟨⟩
    exact hsuffix s.times s.greedy

theorem behind_cons {t : Lexeme} {us : List Lexeme} (h : t.follows = true) : Behind (t :: us) := by
  rintro _ ⟨⟩
  exact h

theorem mem_followSigns {text : String} (h : (Lexeme.sign text).follows = true) :
    text = ";" ∨ text = "|" ∨ text = "(" ∨ text = ")" ∨ text = "~" ∨ text = "->" ∨ text = "#" := by
  simpa [Lexeme.follows] using h

theorem Behind.atom {us : List Lexeme} (h : Behind us) : BehindAtom us := by
  intro t ht
  have hfollows := h t ht
  cases t with
  | sign text =>
    rcases mem_followSigns hfollows with rfl | rfl | rfl | rfl | rfl | rfl | rfl <;> rfl
  | options inner => cases hfollows
  | _ => rfl

/-- What follows an element begins with no sign that would belong to it. -/
theorem Behind.avoids {us : List Lexeme} (h : Behind us) :
    Avoids us (oneOf false ['<', '?', '*', '+', '=']) := by
  refine avoids_of_head fun t ht => ?_
  have hfollows := h t ht
  cases t with
  | sign text =>
    rcases mem_followSigns hfollows with rfl | rfl | rfl | rfl | rfl | rfl | rfl <;> rfl
  | digits text => cases hfollows
  | options inner => cases hfollows
  | suffix times greedy => cases hfollows
  | _ => rfl

theorem BehindAtom.avoids {us : List Lexeme} (h : BehindAtom us) :
    Avoids us (oneOf false ['<']) := by
  refine avoids_one fun t ht => ?_
  have hcontinues := h t ht
  cases t with
  | sign text => exact Lexeme.starts_sign_eq_false (by decide) text
  | options inner => cases hcontinues
  | _ => rfl

/-- Two dots are a sign of their own: a wildcard is not followed by another dot. -/
theorem refuses_dots (h : ∀ t ∈ us.head?, t ≠ .sign "..") : Refuses (word "..") us := by
  refine refuses_token rfl ?_
  rintro t us' rfl hvalid rest hapart
  obtain ⟨c, more, htext, hstarts⟩ := hvalid.text_cons
  by_cases hc : c = '.'
  · subst hc
    cases t with
    | wildcard =>
      cases rest with
      | nil => rfl
      | cons d rest =>
        have hd : d ≠ '.' := of_decide_eq_false (hapart d rfl)
        show Scan.exactly ['.', '.'] ('.' :: d :: rest) = none
        rw [Scan.exactly, if_pos rfl, exactly_ne hd]
        rfl
    | sign text =>
      have hdots : ∀ w ∈ Lexeme.signs, w.toList.head? = some '.' → w = ".." := by decide
      have hhead : text.toList.head? = some '.' := congrArg List.head? htext
      obtain rfl := hdots text hvalid hhead
      exact absurd rfl (h _ rfl)
    | name first more =>
      have hletter : ('.' : Char).isAlpha = true := hstarts
      cases hletter
    | digits text =>
      have hdigit : ('.' : Char).isDigit = true := hstarts
      cases hdigit
    | _ => cases hstarts
  · rw [htext]
    exact exactly_ne hc _ _

theorem labelSign_ne {c : Char} (heq : c ≠ '=') {s : List Char}
    (hplus : c = '+' → ∀ d ∈ s.head?, d ≠ '=') : Scan.labelSign (c :: s) = none := by
  unfold Scan.labelSign
  split
  · rename_i hcons
    cases hcons
    exact absurd rfl (hplus rfl '=' rfl)
  · rename_i hcons
    cases hcons
    exact absurd rfl heq
  · rfl

/-- No label stands before these tokens: a suffix `+` is not followed by an equals sign. -/
theorem refuses_labelSign (h : ∀ t ∈ us.head?, t ≠ .sign "=" ∧ t ≠ .sign "+=") :
    Refuses (token Scan.labelSign) us := by
  refine refuses_token rfl ?_
  rintro t us' rfl hvalid rest hapart
  cases t with
  | name first more =>
    have hletter : first.isAlpha = true := hvalid.1
    refine labelSign_ne ?_ ?_
    · rintro rfl
      cases hletter
    · rintro rfl
      cases hletter
  | digits text =>
    obtain ⟨hne, hall⟩ := hvalid
    obtain ⟨c, more, rfl⟩ := List.exists_cons_of_ne_nil hne
    have hdigit := hall c List.mem_cons_self
    refine labelSign_ne ?_ ?_
    · rintro rfl
      cases hdigit
    · rintro rfl
      cases hdigit
  | suffix times greedy =>
    have hrest : times = .oneOrMore → ∀ d ∈ ((if greedy then [] else ['?']) ++ rest).head?,
        d ≠ '=' := by
      rintro rfl d hd rfl
      cases greedy with
      | true => cases hapart '=' hd
      | false => cases hd
    cases times with
    | optional => exact labelSign_ne (by decide) nofun
    | oneOrMore => exact labelSign_ne (by decide) fun _ => hrest rfl
    | zeroOrMore => exact labelSign_ne (by decide) nofun
  | sign text =>
    -- the signs that begin with a plus or an equals sign are those of labels
    have hsigns : ∀ w ∈ Lexeme.signs, w ≠ "=" → w ≠ "+=" → w.toList.head? ≠ some '=' ∧
        w.toList.head? ≠ some '+' := by decide
    obtain ⟨hequals, hadds⟩ := h _ rfl
    obtain ⟨heq, hplus⟩ := hsigns text hvalid (fun e => hequals (e ▸ rfl)) fun e => hadds (e ▸ rfl)
    obtain ⟨c, more, htext, -⟩ := hvalid.text_cons
    have hhead : text.toList.head? = some c := congrArg List.head? htext
    rw [htext]
    refine labelSign_ne ?_ ?_
    · rintro rfl
      exact heq hhead
    · rintro rfl
      exact absurd hhead hplus
  | _ => exact labelSign_ne (by decide) nofun

theorem takes_elementOptions (options : Option (List Char)) (h : options = none → BehindAtom us) :
    Takes elementOptions (optionTokens options) () us := by
  cases options with
  | none =>
    have hrefuses : Refuses (token Scan.options) us := needs_options.refuses (h rfl).avoids
    exact hrefuses.optional.bind_pure rfl
  | some inner => exact (takes_token (Scan.scans_options inner) us).optional.bind_pure rfl

theorem takes_range (first last : List Char) (us : List Lexeme) :
    Takes range (Member.range first last).tokens (Member.range first last).expr us :=
  (takes_token (Scan.scans_literal first) _).bind
    ((takes_token (Scan.scans_exactly "..") _).bind
      ((takes_token (Scan.scans_literal last) us).bind_pure rfl))

theorem takes_literal {inner : List Char} {options : Option (List Char)} (h : BehindAtom us) :
    Takes literal (Member.literal inner options).tokens (Member.literal inner options).expr us :=
  (takes_token (Scan.scans_literal inner) _).bind
    ((takes_elementOptions options fun _ => h).bind_pure rfl)

theorem takes_tokenName (n : TokenName) (us : List Lexeme) :
    Takes (token Scan.upperName) [n.lexeme] n.string us :=
  takes_token (Scan.scans_name n.isKind) us

theorem takes_ruleName (n : RuleName) (us : List Lexeme) :
    Takes (token Scan.lowerName) [n.lexeme] n.string us :=
  takes_token (Scan.scans_name n.isKind) us

/-- A name whose first letter is of another kind. -/
theorem refuses_name {kind : Char → Bool} {first : Char} (h : kind first = false)
    (more : List Char) (us : List Lexeme) :
    Refuses (token (Scan.name kind)) (.name first more :: us) := by
  refine refuses_token rfl ?_
  rintro _ _ ⟨⟩ _ rest _
  show Scan.name kind (first :: (more ++ rest)) = none
  rw [Scan.name, if_neg (by rw [h]; exact Bool.false_ne_true)]

theorem takes_identifier (n : AnyName) (us : List Lexeme) :
    Takes identifier [n.lexeme] n.string us := by
  cases hupper : n.first.isUpper with
  | true => exact (takes_token (Scan.scans_name hupper) us).or
  | false =>
    have hlower : n.first.isLower = true := by
      have halpha : (n.first.isUpper || n.first.isLower) = true := n.isKind
      rwa [hupper, Bool.false_or] at halpha
    exact Refuses.or_takes (refuses_name hupper n.more us)
      (takes_token (Scan.scans_name hlower) us)

theorem takes_tokenReference {name : TokenName} {options : Option (List Char)}
    (h : BehindAtom us) :
    Takes tokenReference (Member.token name options).tokens (Member.token name options).expr us :=
  (takes_tokenName name _).bind ((takes_elementOptions options fun _ => h).bind_pure rfl)

theorem takes_charset {inner : List Char} (inline : Enclosed ']' Scan.isInline inner)
    (us : List Lexeme) :
    Takes charset (Member.charset inner inline).tokens (Member.charset inner inline).expr us := by
  refine (takes_token (Scan.scans_charset inline) us).bind_pure ?_
  have hinside : inside (String.ofList (Lexeme.brackets inner).text) = String.ofList inner := by
    simp [inside, Lexeme.text]
  rw [hinside]
  rfl

/-- A literal that two dots do not follow is no range. -/
theorem refuses_range {inner : List Char} (h : ∀ t ∈ us.head?, t ≠ .sign "..") :
    Refuses range (.literal inner :: us) :=
  (takes_token (Scan.scans_literal inner) us).bind_refuses (refuses_dots h).bind

theorem needs_range : Needs range (oneOf false ['\'']) := (needs_enclosed _ _ _).bind

theorem needs_literal : Needs literal (oneOf false ['\'']) := (needs_enclosed _ _ _).bind

theorem needs_tokenReference : Needs tokenReference (oneOf true []) :=
  (needs_name isAlpha_of_isUpper).bind

/-- What does not begin with a quote is no range and no literal. -/
theorem Takes.noLiteral {p : Reader Expr} {ps : List (Reader Expr)} {t : Lexeme}
    {ts : List Lexeme} {e : Expr} (ht : t.avoids false ['\''] = true)
    (h : Takes (firstOf (p :: ps)) (t :: ts) e us) :
    Takes (firstOf (range :: literal :: p :: ps)) (t :: ts) e us :=
  Refuses.firstOf_takes (needs_range.refuses (avoids_cons ht))
    (Refuses.firstOf_takes (needs_literal.refuses (avoids_cons ht)) h)

/-- **A member of a set is read as it is meant.** -/
theorem takes_setMember (m : Member) (h : BehindAtom us) :
    Takes setMember m.tokens m.expr us := by
  unfold setMember
  cases m with
  | range first last => exact (takes_range first last us).firstOf
  | literal inner options =>
    have hrange : Refuses range (.literal inner :: (optionTokens options ++ us)) :=
      refuses_range (head_options options (fun _ => nofun) h.not_dots)
    exact Refuses.firstOf_takes hrange (takes_literal h).firstOf
  | token name options => exact Takes.noLiteral rfl (takes_tokenReference h).firstOf
  | charset inner inline =>
    have hreference : Refuses tokenReference (.brackets inner :: us) :=
      needs_tokenReference.refuses (avoids_cons rfl)
    exact Takes.noLiteral rfl (hreference.firstOf_takes (takes_charset inline us).firstOf)

/-! ## 4. Atoms -/

/-- Only brackets begin with a bracket. -/
theorem avoids_bracket (h : ∀ inner, us.head? ≠ some (.brackets inner)) :
    Avoids us (oneOf false ['[']) := by
  refine avoids_one fun t ht => ?_
  cases t with
  | brackets inner => exact absurd ht (h inner)
  | sign text => exact Lexeme.starts_sign_eq_false (by decide) text
  | _ => rfl

theorem needs_argument : Needs (token Scan.argument) (oneOf false ['[']) := needs_enclosed _ _ _

theorem refuses_argument (h : ∀ inner, us.head? ≠ some (.brackets inner)) :
    Refuses (token Scan.argument) us :=
  needs_argument.refuses (avoids_bracket h)

/-- Where no brackets are ahead there is no argument. -/
theorem takes_noArgumentAhead (first : Bool) (h : ∀ inner, us.head? ≠ some (.brackets inner)) :
    Takes (argumentAhead first) [] false us := by
  refine (refuses_argument h).ahead.peek ?_
  exact takes_pure false us

/-- Brackets ahead are an argument at the beginning of an alternative, if they break a line, or
    before options or a suffix. -/
theorem takes_argumentAhead {first : Bool} {inner : List Char}
    (h : first = true ∨ ¬ Enclosed ']' Scan.isInline inner ∨
      ∃ options suffix us', (options ≠ none ∨ suffix ≠ none) ∧
        us = optionTokens options ++ (suffixTokens suffix ++ us')) :
    Takes (argumentAhead first) [] true (.brackets inner :: us) := by
  have hargument := (takes_token (Scan.scans_argument inner) us).ahead
  refine hargument.peek ?_
  cases first with
  | true => exact takes_pure true _
  | false =>
    by_cases hinline : Enclosed ']' Scan.isInline inner
    · have hset := (takes_token (Scan.scans_charset hinline) us).ahead
      refine hset.peek ?_
      rcases h with hfirst | hbroken | ⟨options, suffix, us', hne, rfl⟩
      · cases hfirst
      · exact absurd hinline hbroken
      · -- what is behind the brackets is looked at, too
        cases options with
        | some o =>
          have hbehind : Takes
              (token Scan.argument >>= fun _ => (token Scan.options).or (token Scan.suffix))
              ([.brackets inner] ++ [.options o]) _ (suffixTokens suffix ++ us') :=
            (takes_token (Scan.scans_argument inner) _).bind
              (takes_token (Scan.scans_options o) _).or
          exact hbehind.ahead
        | none =>
          cases suffix with
          | none => simp at hne
          | some sf =>
            have hrefuses : Refuses (token Scan.options) ([.suffix sf.times sf.greedy] ++ us') :=
              needs_options.refuses (avoids_cons rfl)
            have hbehind : Takes
                (token Scan.argument >>= fun _ => (token Scan.options).or (token Scan.suffix))
                ([.brackets inner] ++ [.suffix sf.times sf.greedy]) _ us' :=
              (takes_token (Scan.scans_argument inner) _).bind
                (hrefuses.or_takes (takes_token (Scan.scans_suffix sf.times sf.greedy) us'))
            exact hbehind.ahead
    · have hset : Refuses (token Scan.charset) (.brackets inner :: us) := by
        refine refuses_token rfl ?_
        rintro _ _ ⟨⟩ hvalid rest _
        exact Scan.charset_broken hvalid hinline rest
      refine hset.ahead.peek ?_
      exact takes_pure true _

/-- Brackets ahead are no argument behind the beginning of an alternative, if they stand on one line
    and nothing belongs to them. -/
theorem takes_setAhead {inner : List Char} (inline : Enclosed ']' Scan.isInline inner)
    (h : Behind us) : Takes (argumentAhead false) [] false (.brackets inner :: us) := by
  have hargument := (takes_token (Scan.scans_argument inner) us).ahead
  refine hargument.peek ?_
  have hset := (takes_token (Scan.scans_charset inline) us).ahead
  refine hset.peek ?_
  have hoptions : Refuses (token Scan.options) us :=
    (needs_options.imp (oneOf_mono nofun (by decide))).refuses h.avoids
  have hsuffix : Refuses (token Scan.suffix) us :=
    (needs_suffix.imp (oneOf_mono nofun (by decide))).refuses h.avoids
  exact ((takes_token (Scan.scans_argument inner) us).bind_refuses (hoptions.or hsuffix)).ahead

/-- A reference without argument is told from what follows it. -/
theorem takes_noArgument {first : Bool} {name : RuleName} {options : Option (List Char)}
    {suffix : Option Suffix} (hclear : (Atom.rule name none options).Clear first suffix us) :
    Takes (argumentAhead first) [] false
      (optionTokens options ++ (suffixTokens suffix ++ us)) := by
  cases options with
  | some o => exact takes_noArgumentAhead first nofun
  | none =>
    cases suffix with
    | some sf => exact takes_noArgumentAhead first nofun
    | none =>
      have hbehind := (hclear.resolve_left (· rfl)).resolve_left (· rfl)
      by_cases hbrackets : ∃ inner, us.head? = some (.brackets inner)
      · obtain ⟨inner, hhead⟩ := hbrackets
        obtain ⟨rfl, inline, halone⟩ := hbehind inner hhead
        obtain ⟨us', rfl⟩ : ∃ us', us = .brackets inner :: us' := by
          cases us with
          | nil => cases hhead
          | cons t us' =>
            cases hhead
            exact ⟨us', rfl⟩
        exact takes_setAhead inline halone
      · exact takes_noArgumentAhead first fun inner hhead => hbrackets ⟨inner, hhead⟩

/-- **A reference to a rule is read with its argument, if it has one.** -/
theorem takes_ruleReference {first : Bool} {name : RuleName} {argument options : Option (List Char)}
    {suffix : Option Suffix} (hclear : (Atom.rule name argument options).Clear first suffix us)
    (h : BehindAtom (suffixTokens suffix ++ us)) :
    Takes (ruleReference first) (Atom.rule name argument options).tokens
      (Atom.rule name argument options).expr (suffixTokens suffix ++ us) := by
  cases argument with
  | none =>
    exact (takes_ruleName name _).bind
      ((takes_noArgument hclear).then ((takes_elementOptions options fun _ => h).bind_pure rfl))
  | some inner =>
    refine (takes_ruleName name _).bind ?_
    have hahead : Takes (argumentAhead first) [] true
        (.brackets inner :: (optionTokens options ++ (suffixTokens suffix ++ us))) := by
      refine takes_argumentAhead ?_
      rcases hclear with hfirst | hbroken | hne
      · exact .inl hfirst
      · exact .inr (.inl hbroken)
      · exact .inr (.inr ⟨options, suffix, us, hne, rfl⟩)
    refine hahead.then ?_
    exact (takes_token (Scan.scans_argument inner) _).bind
      ((takes_elementOptions options fun _ => h).bind_pure rfl)

theorem needs_ruleReference {first : Bool} : Needs (ruleReference first) (oneOf true []) :=
  (needs_name isAlpha_of_isLower).bind

theorem takes_wildcard (options : Option (List Char)) (h : BehindAtom us) :
    Takes wildcard (Atom.wildcard options).tokens (Atom.wildcard options).expr us :=
  (takes_token Scan.scans_wildcard _).bind ((takes_elementOptions options fun _ => h).bind_pure rfl)

theorem takes_word (w : String) (us : List Lexeme) : Takes (word w) [.sign w] w us := by
  have h := takes_token (Scan.scans_exactly w) us
  rwa [Lexeme.text, String.ofList_toList] at h

/-- Things with a separator between them: the first, and then others behind a separator each. -/
theorem takes_separated {α : Type} {p : Reader α} {separator : String} {ts vs : List Lexeme}
    {a : α} {as : List α} (hp : Takes p ts a (vs ++ us))
    (hmore : TakesMany (word separator >>= fun _ => p) vs as us) :
    Takes (separated separator p) (ts ++ vs) (a :: as) us :=
  hp.bind (hmore.many.bind_pure rfl)

theorem takesMany_members (members : List Member) (us : List Lexeme) :
    TakesMany (word "|" >>= fun _ => setMember) (memberTokens members)
      (members.map Member.expr) (.sign ")" :: us) := by
  induction members with
  | nil =>
    have hrefuses : Refuses (word "|") (.sign ")" :: us) :=
      (needs_exactly rfl).refuses (avoids_cons rfl)
    exact hrefuses.bind.takesMany
  | cons m members ih =>
    have hbehind : BehindAtom (memberTokens members ++ .sign ")" :: us) := by
      cases members with
      | nil => exact behindAtom_cons rfl
      | cons m' members => exact behindAtom_cons rfl
    have hmember : Takes (word "|" >>= fun _ => setMember) ([.sign "|"] ++ m.tokens) m.expr
        (memberTokens members ++ .sign ")" :: us) :=
      (takes_word "|" _).bind (takes_setMember m hbehind)
    exact TakesMany.cons hmember nofun ih

theorem needs_negated : Needs negated (oneOf false ['~']) := (needs_exactly rfl).bind

theorem takes_negated (m : Member) (h : BehindAtom us) :
    Takes negated (Atom.negated m).tokens (Atom.negated m).expr us :=
  (takes_word "~" _).bind ((takes_setMember m h).or.bind_pure rfl)

theorem takes_negatedSet (first : Member) (more : List Member) (us : List Lexeme) :
    Takes negated (Atom.negatedSet first more).tokens (Atom.negatedSet first more).expr us := by
  have hbehind : BehindAtom (memberTokens more ++ ([.sign ")"] ++ us)) := by
    cases more with
    | nil => exact behindAtom_cons rfl
    | cons m more => exact behindAtom_cons rfl
  have hmembers : Takes (separated "|" setMember) (first.tokens ++ memberTokens more)
      (first.expr :: more.map Member.expr) ([.sign ")"] ++ us) :=
    takes_separated (takes_setMember first hbehind) (takesMany_members more us)
  refine (takes_word "~" _).bind (Takes.bind_pure (Refuses.or_takes ?_ ?_) rfl)
  · exact needs_setMember.refuses (avoids_cons rfl)
  · refine (takes_word "(" _).bind ?_
    have hinner := hmembers.bind (f := fun members => word ")" >>= fun _ =>
      Pure.pure (Expr.tokenSet members)) ((takes_word ")" us).bind_pure rfl)
    rw [List.append_assoc] at hinner
    exact hinner

/-- What begins with neither a quote nor a letter is no literal and no reference. -/
theorem Takes.noReference {p : Reader Expr} {ps : List (Reader Expr)} {first : Bool} {t : Lexeme}
    {ts : List Lexeme} {e : Expr} (hquote : t.avoids false ['\''] = true)
    (hletter : t.avoids true [] = true) (h : Takes (firstOf (p :: ps)) (t :: ts) e us) :
    Takes (firstOf (range :: literal :: tokenReference :: ruleReference first :: p :: ps)) (t :: ts)
      e us :=
  Takes.noLiteral hquote
    (Refuses.firstOf_takes (needs_tokenReference.refuses (avoids_cons hletter))
      (Refuses.firstOf_takes (needs_ruleReference.refuses (avoids_cons hletter)) h))

/-- **An atom is read as it is meant.** -/
theorem takes_atom {a : Atom} {first : Bool} {suffix : Option Suffix}
    (hclear : a.Clear first suffix us) (h : BehindAtom (suffixTokens suffix ++ us)) :
    Takes (atom first) a.tokens a.expr (suffixTokens suffix ++ us) := by
  unfold atom
  cases a with
  | member m =>
    cases m with
    | range f l => exact (takes_range f l _).firstOf
    | literal inner options =>
      have hrange : Refuses range
          (.literal inner :: (optionTokens options ++ (suffixTokens suffix ++ us))) :=
        refuses_range (head_options options (fun _ => nofun) h.not_dots)
      exact Refuses.firstOf_takes hrange (takes_literal h).firstOf
    | token name options => exact Takes.noLiteral rfl (takes_tokenReference h).firstOf
    | charset inner inline =>
      exact Takes.noReference rfl rfl
        (Refuses.firstOf_takes (needs_negated.refuses (avoids_cons rfl))
          (Refuses.firstOf_takes (needs_wildcard.bind.refuses (avoids_cons rfl))
            (takes_charset inline _).firstOf))
  | rule name argument options =>
    have hupper : name.first.isUpper = false := isUpper_of_isLower name.isKind
    exact Takes.noLiteral rfl
      (Refuses.firstOf_takes (refuses_name hupper name.more _).bind
        (takes_ruleReference hclear h).firstOf)
  | wildcard options =>
    exact Takes.noReference rfl rfl
      (Refuses.firstOf_takes (needs_negated.refuses (avoids_cons rfl))
        (takes_wildcard options h).firstOf)
  | negated m => exact Takes.noReference rfl rfl (takes_negated m h).firstOf
  | negatedSet f more => exact Takes.noReference rfl rfl (takes_negatedSet f more _).firstOf

end GrammarManual.G4
