import GrammarManual.Proofs.Alternatives

/-!
# Proofs/Groups: written bodies of any depth are read as they are meant

* `refuses_keyword` -- a keyword is not read from the beginning of a name, unless the name is the
  keyword and what follows goes on like it;
* **`Body.takes`** -- a written body that is clear is read as it is meant, by induction on the
  body; groups nest no deeper than there are tokens.
-/

namespace GrammarManual.G4

open Reader

variable {us : List Lexeme} {depth : Nat}

/-! ## 1. Keywords -/

theorem isNameChar_of_isAlpha {c : Char} (h : c.isAlpha = true) : Scan.isNameChar c = true := by
  rw [Scan.isNameChar, Char.isAlphanum, h]
  rfl

theorem Lexeme.Valid.nameChars {first : Char} {more : List Char}
    (h : (Lexeme.name first more).Valid) : ∀ c ∈ first :: more, Scan.isNameChar c = true :=
  List.forall_mem_cons.mpr ⟨isNameChar_of_isAlpha h.1, h.2⟩

/-- No gap begins with a character of a name. -/
theorem not_gapStart_of_isNameChar {c : Char} (h : Scan.isNameChar c = true) :
    isBlank c = false ∧ c ≠ '/' :=
  not_gapStart (p := Scan.isNameChar) (by decide) h

theorem oneOf_nameChar {cs : List Char} (hcs : ∀ d ∈ cs, Scan.isNameChar d = false) {c : Char}
    (hc : Scan.isNameChar c = true) : oneOf false cs c = false := by
  rw [oneOf, Bool.false_and, Bool.false_or, ← Bool.not_eq_true, List.contains_iff_mem]
  intro hmem
  rw [hcs c hmem] at hc
  cases hc

/-- A word of name characters is read wherever it stands: it need not end there. -/
theorem reads_word {N : Nat} {w : String} {gap rest : List Char} {k : Char} {ks : List Char}
    (hgap : IsGap gap) (hw : w.toList = k :: ks) (hk : Scan.isNameChar k = true)
    (hN : (gap ++ (w.toList ++ rest)).length ≤ N) :
    Reads N (word w) (gap ++ (w.toList ++ rest)) w rest := by
  have hread := reads_token hgap hw (not_gapStart_of_isNameChar hk) hN
    (Scan.exactly_append w.toList rest)
  rwa [String.ofList_toList] at hread

theorem takes_keyword {w : String} {first : Char} {more : List Char} (hw : w.toList = first :: more)
    (us : List Lexeme) : Takes (word w) [.name first more] w us := by
  have h := takes_token (Scan.scans_exactly_name hw) us
  rwa [Lexeme.text, ← hw, String.ofList_toList] at h

/-- Where a name stands, a keyword is read from its beginning if at all. So it is not read together
    with what follows it, if that fails behind the name and before every rest of it. -/
theorem fails_keyword {α : Type} {N : Nat} {w : String} {f : String → Reader α}
    {gap rest : List Char} {first : Char} {more : List Char} (hgap : IsGap gap)
    (hvalid : (Lexeme.name first more).Valid) (hapart : (Lexeme.name first more).Apart rest)
    (hN : (gap ++ ((Lexeme.name first more).text ++ rest)).length ≤ N)
    (hw : ∀ c ∈ w.toList, Scan.isNameChar c = true) (hne : w.toList ≠ [])
    (hend : w.toList = first :: more → rest.length ≤ N → Fails N (f w) rest)
    (hinside : ∀ c extra, first :: more = w.toList ++ c :: extra →
      isBlank c = false → c ≠ '/' → Fails N (f w) (c :: (extra ++ rest))) :
    Fails N (word w >>= f) (gap ++ ((Lexeme.name first more).text ++ rest)) := by
  obtain ⟨k, ks, hks⟩ := List.exists_cons_of_ne_nil hne
  cases hscan : Scan.exactly w.toList ((first :: more) ++ rest) with
  | none =>
    refine Fails.bind (fails_token ?_)
    rw [skipBlank_text hgap hvalid hN]
    exact hscan
  | some x =>
    obtain ⟨extra, hname, -⟩ := Scan.exactly_in_name hw hapart hscan
    have htext : (Lexeme.name first more).text ++ rest = w.toList ++ (extra ++ rest) := by
      rw [Lexeme.text, hname, List.append_assoc]
    rw [htext] at hN ⊢
    refine (reads_word hgap hks (hw k (hks ▸ List.mem_cons_self)) hN).bind_fails ?_
    -- the keyword is the whole name, or ends before another character of it
    cases extra with
    | nil =>
      rw [List.append_nil] at hname
      have hlength : rest.length ≤ N := by
        simp only [List.length_append] at hN
        omega
      exact hend hname.symm hlength
    | cons c extra =>
      have hc : Scan.isNameChar c = true :=
        hvalid.nameChars c (hname ▸ List.mem_append_right _ List.mem_cons_self)
      obtain ⟨hblank, hslash⟩ := not_gapStart_of_isNameChar hc
      exact hinside c extra hname hblank hslash

/-- A keyword is not read from the beginning of a name, if nothing that follows the keyword begins
    with a character of a name. If the name is the keyword itself, what follows decides. -/
theorem refuses_keyword {α : Type} {w : String} {f : String → Reader α} {cs : List Char}
    {first : Char} {more : List Char} (hw : ∀ c ∈ w.toList, Scan.isNameChar c = true)
    (hne : w.toList ≠ []) (hneeds : Needs (f w) (oneOf false cs))
    (hcs : ∀ d ∈ cs, Scan.isNameChar d = false)
    (h : w.toList = first :: more → Refuses (f w) us) :
    Refuses (word w >>= f) (.name first more :: us) := by
  rintro N s hN ⟨tail, hsteps, htail⟩
  cases hsteps with
  | @cons gap rest _ _ _ hgap hvalid hapart hmore =>
    refine fails_keyword hgap hvalid hapart hN hw hne ?_ ?_
    · intro hname hrest
      exact h hname N rest hrest ⟨tail, hmore, htail⟩
    · intro c extra hname hblank hslash
      have hc : Scan.isNameChar c = true :=
        hvalid.nameChars c (hname ▸ List.mem_append_right _ List.mem_cons_self)
      exact hneeds.fails hblank hslash (oneOf_nameChar hcs hc)

/-- A keyword is not read where no name stands. -/
theorem refuses_word {α : Type} {w : String} {f : String → Reader α} {k : Char} {ks : List Char}
    (hw : w.toList = k :: ks) (hk : k.isAlpha = true) (h : ∀ t ∈ us.head?, t.isName = false) :
    Refuses (word w >>= f) us := by
  refine ((needs_exactly hw).refuses (avoids_one fun t ht => ?_)).bind
  rw [← Bool.not_eq_true]
  intro hstarts
  rw [Lexeme.isAlpha_of_starts (h t ht) hstarts] at hk
  cases hk

/-! ## 2. Groups -/

theorem Member.colon_notMem (m : Member) : .sign ":" ∉ m.tokens := by
  cases m with
  | literal inner options => cases options <;> simp [Member.tokens, optionTokens]
  | token name options => cases options <;> simp [Member.tokens, optionTokens, Name.lexeme]
  | _ => simp [Member.tokens]

theorem colon_notMem_options (options : Option (List Char)) : .sign ":" ∉ optionTokens options := by
  cases options <;> simp [optionTokens]

theorem colon_notMem_suffix (suffix : Option Suffix) : .sign ":" ∉ suffixTokens suffix := by
  cases suffix <;> simp [suffixTokens]

theorem colon_notMem_label (label : Option Label) : .sign ":" ∉ labelTokens label := by
  cases label with
  | none => simp [labelTokens]
  | some l => cases hcollects : l.collects <;> simp [labelTokens, Name.lexeme, hcollects]

theorem Atom.colon_notMem (a : Atom) : .sign ":" ∉ a.tokens := by
  cases a with
  | member m => exact m.colon_notMem
  | rule name argument options =>
    cases argument <;> simp [Atom.tokens, Name.lexeme, colon_notMem_options]
  | wildcard options => simp [Atom.tokens, colon_notMem_options]
  | negated m => simp [Atom.tokens, m.colon_notMem]
  | negatedSet first more => simp [Atom.tokens, memberTokens, Member.colon_notMem]

theorem Command.colon_notMem (c : Command) : .sign ":" ∉ c.tokens := by
  obtain ⟨name, argument⟩ := c
  cases argument with
  | none => simp [Command.tokens, Name.lexeme]
  | some a => cases a <;> simp [Command.tokens, Name.lexeme, CommandArgument.lexeme]

theorem Ending.colon_notMem (e : Ending) : .sign ":" ∉ e.commandTokens ++ e.nameTokens := by
  obtain ⟨commands, label⟩ := e
  have hname : .sign ":" ∉ Ending.nameTokens ⟨commands, label⟩ := by
    cases label <;> simp [Ending.nameTokens, Name.lexeme]
  cases commands with
  | none => simpa [Ending.commandTokens] using hname
  | some c => simpa [Ending.commandTokens, Command.colon_notMem] using hname

mutual

theorem Item.colon_notMem : (i : Item) → .sign ":" ∉ i.tokens
  | .atom label a suffix => by
    simp [Item.tokens, colon_notMem_label, colon_notMem_suffix, a.colon_notMem]
  | .group label body suffix => by
    simp [Item.tokens, colon_notMem_label, colon_notMem_suffix, body.colon_notMem]
  | .predicate inner => by simp [Item.tokens]
  | .action inner => by simp [Item.tokens]

theorem Items.colon_notMem : (is : Items) → .sign ":" ∉ is.tokens
  | .nil => by simp [Items.tokens]
  | .cons item more => by simp [Items.tokens, item.colon_notMem, more.colon_notMem]

/-- No colon stands in a body. -/
theorem Body.colon_notMem : (b : Body) → .sign ":" ∉ b.tokens
  | .last options items ending => by
    have hending := ending.colon_notMem
    simp_all [Body.tokens, colon_notMem_options, items.colon_notMem]
  | .more options items ending rest => by
    have hending := ending.colon_notMem
    simp_all [Body.tokens, colon_notMem_options, items.colon_notMem, rest.colon_notMem]

end

/-- Only code begins with a brace. -/
theorem refuses_code (h : ∀ inner, us.head? ≠ some (.code inner)) :
    Refuses (token Scan.code) us := by
  refine needs_code.refuses (avoids_one fun t ht => ?_)
  cases t with
  | code inner => exact absurd ht (h inner)
  | sign text => exact Lexeme.starts_sign_eq_false (by decide) text
  | _ => rfl

/-- Only the colon begins with a colon. -/
theorem refuses_colon (h : us.head? ≠ some (.sign ":")) : Refuses (word ":") us := by
  refine (needs_exactly (k := ':') rfl).refuses (avoids_one fun t ht => ?_)
  cases t with
  | sign text =>
    have hcolon : ∀ w ∈ Lexeme.signs, w.toList.head? = some ':' → w = ":" := by decide
    rw [← Bool.not_eq_true]
    intro hstarts
    rw [Lexeme.starts, Bool.and_eq_true, List.contains_iff_mem, decide_eq_true_eq] at hstarts
    obtain rfl := hcolon text hstarts.1 hstarts.2
    exact h ht
  | _ => rfl

/-- A group does not begin with options: behind the code would stand a colon. -/
theorem refuses_groupOptions {ts : List Lexeme} (hcolon : .sign ":" ∉ ts) :
    Refuses (optionsSpec >>= fun _ => word ":") (ts ++ .sign ")" :: us) := by
  have hother : ∀ us' : List Lexeme, (∀ t ∈ us'.head?, t.isName = false) →
      Refuses (optionsSpec >>= fun _ => word ":") us' :=
    fun us' hus' => (refuses_word rfl rfl hus').bind
  cases ts with
  | nil => exact hother _ (by rintro _ ⟨⟩; rfl)
  | cons t ts =>
    cases t with
    | name first more =>
      by_cases hoptions : "options".toList = first :: more ∧
          ∃ inner, (ts ++ .sign ")" :: us).head? = some (.code inner)
      · obtain ⟨hname, inner, hhead⟩ := hoptions
        obtain ⟨ts', rfl⟩ : ∃ ts', ts = .code inner :: ts' := by
          cases ts with
          | nil => cases hhead
          | cons t ts' =>
            cases hhead
            exact ⟨ts', rfl⟩
        have hbehind : (ts' ++ .sign ")" :: us).head? ≠ some (.sign ":") := by
          cases ts' with
          | nil => simp
          | cons t ts' =>
            rintro ⟨⟩
            exact hcolon (by simp)
        have hspec : Takes optionsSpec ([.name first more] ++ [.code inner]) ()
            (ts' ++ .sign ")" :: us) :=
          (takes_keyword hname _).bind ((takes_token (Scan.scans_code inner) _).bind_pure rfl)
        exact hspec.bind_refuses (refuses_colon hbehind)
      · have hspec : Refuses optionsSpec (.name first more :: (ts ++ .sign ")" :: us)) :=
          refuses_keyword (by decide) (by decide) needs_code.bind (by decide) fun hname =>
            (refuses_code fun inner hhead => hoptions ⟨hname, inner, hhead⟩).bind
        exact hspec.bind
    | _ => exact hother _ (by rintro _ ⟨⟩; rfl)

theorem takes_block {ts : List Lexeme} {e : Expr} (hcolon : .sign ":" ∉ ts)
    (h : Takes (alternatives (block depth)) ts e (.sign ")" :: us)) :
    Takes (block (depth + 1)) (.sign "(" :: (ts ++ [.sign ")"])) e us := by
  have hnone : Refuses (optionsSpec >>= fun _ => word ":") (ts ++ [.sign ")"] ++ us) := by
    rw [List.append_assoc]
    exact refuses_groupOptions hcolon
  have hinner : Takes (alternatives (block depth) >>= fun e => word ")" >>= fun _ => Pure.pure e)
      (ts ++ [.sign ")"]) e us := h.bind ((takes_word ")" us).bind_pure rfl)
  exact (takes_word "(" _).bind (hnone.optional.then hinner)

/-! ## 3. Elements in a row -/

theorem takes_noElements (h : EndsElements us) : Takes (elements (block depth)) [] [] us := by
  have hnone : Refuses (element (block depth) true) us :=
    (needs_element depth true).refuses h.avoids
  exact hnone.optional.bind_pure rfl

theorem takes_elements {b : Reader Expr} {ts vs : List Lexeme} {e : Expr} {es : List Expr}
    (hfirst : Takes (element b true) ts e (vs ++ us))
    (hmore : TakesMany (element b false) vs es us) :
    Takes (elements b) (ts ++ vs) (e :: es) us :=
  hfirst.optional.bind (hmore.many.bind_pure rfl)

/-- An element begins with a token that can follow another element. -/
theorem Item.exists_head (i : Item) : ∃ t ts, i.tokens = t :: ts ∧ t.follows = true := by
  cases i with
  | atom label a suffix =>
    cases label with
    | some l => exact ⟨_, _, rfl, rfl⟩
    | none =>
      cases a with
      | member m => cases m <;> exact ⟨_, _, rfl, rfl⟩
      | _ => exact ⟨_, _, rfl, rfl⟩
  | group label body suffix => cases label <;> exact ⟨_, _, rfl, rfl⟩
  | predicate inner => exact ⟨_, _, rfl, rfl⟩
  | action inner => exact ⟨_, _, rfl, rfl⟩

theorem Item.tokens_ne_nil (i : Item) : i.tokens ≠ [] := by
  obtain ⟨t, ts, htokens, -⟩ := i.exists_head
  rw [htokens]
  exact List.cons_ne_nil t ts

theorem Items.behind (is : Items) (h : EndsElements us) : Behind (is.tokens ++ us) := by
  cases is with
  | nil => exact h.behind
  | cons item more =>
    obtain ⟨t, ts, htokens, hfollows⟩ := item.exists_head
    rw [Items.tokens, htokens]
    exact behind_cons hfollows

/-- Whether an element is clear does not depend on what ends the alternative. -/
theorem Item.Clear.append {i : Item} {first : Bool} {after : List Lexeme}
    (h : i.Clear first after) (hus : EndsElements us) : i.Clear first (after ++ us) := by
  cases i with
  | atom label a suffix =>
    cases a with
    | rule name argument options =>
      cases argument with
      | some inner => exact h
      | none =>
        refine h.imp_right fun h => h.imp_right fun h inner hhead => ?_
        cases after with
        | nil =>
          rcases hus _ hhead with h | h | h | h | h <;> cases h
        | cons t after =>
          obtain ⟨hfirst, inline, halone⟩ := h inner hhead
          refine ⟨hfirst, inline, ?_⟩
          -- behind brackets that come last, the alternative ends
          cases after with
          | nil => exact hus.behind
          | cons u after => exact halone
    | _ => trivial
  | group label body suffix => exact h
  | predicate inner => trivial
  | action inner => trivial

/-! ## 4. Bodies -/

/-- What ends a body. -/
def ClosesBody (us : List Lexeme) : Prop := ∀ t ∈ us.head?, t = .sign ")" ∨ t = .sign ";"

theorem ClosesBody.closes (h : ClosesBody us) : Closes us := fun t ht => .inr (h t ht)

theorem ClosesBody.refuses_bar {α : Type} {f : String → Reader α} (h : ClosesBody us) :
    Refuses (word "|" >>= f) us := by
  have havoids : Avoids us (oneOf false ['|']) := by
    refine avoids_of_head fun t ht => ?_
    rcases h t ht with rfl | rfl <;> rfl
  exact ((needs_exactly rfl).refuses havoids).bind

/-- The tokens of an alternative. -/
def alternativeTokens (options : Option (List Char)) (items : Items) (ending : Ending) :
    List Lexeme :=
  optionTokens options ++ (items.tokens ++ (ending.commandTokens ++ ending.nameTokens))

/-- An alternative is read as it is meant, if its elements are. -/
theorem takes_alternativeOf {options : Option (List Char)} {items : Items} {ending : Ending}
    (h : Closes us) (hitems : ∀ us', EndsElements us' →
      Takes (elements (block depth)) items.tokens items.exprs us') :
    Takes (alternative (block depth)) (alternativeTokens options items ending)
      (.sequence (items.exprs ++ ending.exprs)) us := by
  have hends := ending.endsElements h
  exact takes_alternative (hitems _ hends) (items.behind hends).atom h

/-- One more alternative behind a bar. -/
theorem takesMany_alternative {ts vs : List Lexeme} {e : Expr} {es : List Expr}
    (hfirst : Takes (alternative (block depth)) ts e (vs ++ us))
    (hmore : TakesMany (word "|" >>= fun _ => alternative (block depth)) vs es us) :
    TakesMany (word "|" >>= fun _ => alternative (block depth)) (.sign "|" :: (ts ++ vs)) (e :: es)
      us := by
  have hbar : Takes (word "|" >>= fun _ => alternative (block depth)) ([.sign "|"] ++ ts) e
      (vs ++ us) := (takes_word "|" _).bind hfirst
  exact TakesMany.cons hbar nofun hmore

theorem takes_alternatives {ts vs : List Lexeme} {e : Expr} {es : List Expr}
    (hfirst : Takes (alternative (block depth)) ts e (vs ++ us))
    (hmore : TakesMany (word "|" >>= fun _ => alternative (block depth)) vs es us) :
    Takes (alternatives (block depth)) (ts ++ vs) (.choice (e :: es)) us :=
  (takes_separated hfirst hmore).bind_pure rfl

-- The induction is on the tree. The bound on the nesting depth is the number of tokens, which no
-- part of a body exceeds.
mutual

theorem Item.takes : (i : Item) → ∀ {us : List Lexeme} {depth : Nat} {first : Bool},
    i.Clear first us → Behind us → i.tokens.length ≤ depth →
    Takes (element (block depth) first) i.tokens i.expr us
  | .atom label a suffix, _, _, _, hclear, hus, _ => takes_atomElement hclear hus
  | .group label body suffix, us, depth, _, hclear, hus, hdepth => by
    have hlength : body.tokens.length + 1 ≤ depth := by
      simp [Item.tokens] at hdepth
      omega
    -- the parentheses are tokens of the group, so its inside has a depth less to spend
    obtain ⟨depth, rfl⟩ : ∃ d, depth = d + 1 := ⟨depth - 1, by omega⟩
    have hcloses : ClosesBody (.sign ")" :: (suffixTokens suffix ++ us)) := by
      rintro _ ⟨⟩
      exact .inl rfl
    have hbody := body.takes hclear hcloses (Nat.le_of_succ_le_succ hlength)
    exact takes_groupElement (takes_block body.colon_notMem hbody) hus
  | .predicate inner, us, depth, first, _, _, _ => takes_predicate depth first inner us
  | .action inner, _, depth, first, _, hus, _ => takes_action depth first inner hus

theorem Items.takesMany : (is : Items) → ∀ {us : List Lexeme} {depth : Nat},
    is.Clear false → EndsElements us → is.tokens.length ≤ depth →
    TakesMany (element (block depth) false) is.tokens is.exprs us
  | .nil, _, depth, _, hus, _ => ((needs_element depth false).refuses hus.avoids).takesMany
  | .cons item more, us, depth, hclear, hus, hdepth => by
    rw [Items.tokens, List.length_append] at hdepth
    have hitem := item.takes (hclear.1.append hus) (more.behind hus) (by omega : _ ≤ depth)
    exact TakesMany.cons hitem item.tokens_ne_nil (more.takesMany hclear.2 hus (by omega))

theorem Items.takes : (is : Items) → ∀ {us : List Lexeme} {depth : Nat},
    is.Clear true → EndsElements us → is.tokens.length ≤ depth →
    Takes (elements (block depth)) is.tokens is.exprs us
  | .nil, _, _, _, hus, _ => takes_noElements hus
  | .cons item more, us, depth, hclear, hus, hdepth => by
    rw [Items.tokens, List.length_append] at hdepth
    have hitem := item.takes (hclear.1.append hus) (more.behind hus) (by omega : _ ≤ depth)
    exact takes_elements hitem (more.takesMany hclear.2 hus (by omega))

/-- The first alternative of a body, and those behind it. -/
theorem Body.split : (b : Body) → ∀ {us : List Lexeme} {depth : Nat},
    b.Clear → ClosesBody us → b.tokens.length ≤ depth →
    ∃ ts vs e es, b.tokens = ts ++ vs ∧ b.exprs = e :: es ∧
      Takes (alternative (block depth)) ts e (vs ++ us) ∧
      TakesMany (word "|" >>= fun _ => alternative (block depth)) vs es us
  | .last options items ending, us, depth, hclear, hus, hdepth => by
    have hitems : items.tokens.length ≤ depth := by
      simp only [Body.tokens, List.length_append] at hdepth
      omega
    have hfirst : Takes (alternative (block depth)) (alternativeTokens options items ending) _ us :=
      takes_alternativeOf hus.closes fun us' hus' => items.takes hclear hus' hitems
    exact ⟨_, [], _, [], (List.append_nil _).symm, rfl, hfirst, hus.refuses_bar.takesMany⟩
  | .more options items ending rest, us, depth, hclear, hus, hdepth => by
    have hlengths : items.tokens.length ≤ depth ∧ rest.tokens.length ≤ depth := by
      simp only [Body.tokens, List.length_append, List.length_cons] at hdepth
      omega
    obtain ⟨ts, vs, e, es, htokens, hexprs, hfirst, hmore⟩ := rest.split hclear.2 hus hlengths.2
    refine ⟨alternativeTokens options items ending, .sign "|" :: rest.tokens, _, rest.exprs, rfl,
      rfl, ?_, ?_⟩
    · exact takes_alternativeOf (closes_bar _) fun us' hus' =>
        items.takes hclear.1 hus' hlengths.1
    · rw [htokens, hexprs]
      exact takesMany_alternative hfirst hmore

/-- **A body that is clear is read as it is meant**, before a closing parenthesis and before the
    semicolon of its rule. -/
theorem Body.takes (b : Body) {us : List Lexeme} {depth : Nat} (hclear : b.Clear)
    (hus : ClosesBody us) (hdepth : b.tokens.length ≤ depth) :
    Takes (alternatives (block depth)) b.tokens b.expr us := by
  obtain ⟨ts, vs, e, es, htokens, hexprs, hfirst, hmore⟩ := b.split hclear hus hdepth
  rw [htokens, Body.expr, hexprs]
  exact takes_alternatives hfirst hmore

end

end GrammarManual.G4
