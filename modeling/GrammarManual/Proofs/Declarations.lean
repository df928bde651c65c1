import GrammarManual.Proofs.Groups

/-!
# Proofs/Declarations: which names declarations are read with

A keyword need not end where it is read, so a name that begins like one may first be read as the
keyword and what is left of the name.

* `BeforeColon` -- a name, or the rest of one, and a colon behind it. Neither a grammar declaration
  nor an import nor an exception handler is read there, however far into the name their keywords
  reach;
* **`reads_declaration`**, **`reads_fragmentDeclaration`** -- a declaration is read with its name,
  unless the word `fragment` is read from the name and another name is left;
* `reads_file` -- a file of nothing but declarations.
-/

namespace GrammarManual.G4

open Reader

variable {N : Nat} {us : List Lexeme}

/-! ## 1. The beginning of a declaration -/

/-- The rest of a name, perhaps nothing of it, and a colon behind it. -/
def BeforeColon (s : List Char) : Prop :=
  ∃ gap more gap' rest, IsGap gap ∧ (∀ c ∈ more, Scan.isNameChar c = true) ∧ IsGap gap' ∧
    s = gap ++ (more ++ (gap' ++ ':' :: rest))

theorem rest_skip_gap {gap : List Char} (h : IsGap gap) {d : Char} (hblank : isBlank d = false)
    (hslash : d ≠ '/') (n : Nat) (s : List Char) :
    (skipBlank ⟨n, gap ++ d :: s⟩).rest = d :: s := by
  show (skip .blanks n (gap ++ d :: s)).rest = _
  rw [skip_gap h, skip_token hblank hslash]

/-- What is ahead before a colon: a character of a name, or the colon. -/
theorem BeforeColon.ahead {c : Cursor} (h : BeforeColon c.rest) :
    (∃ rest, (skipBlank c).rest = ':' :: rest) ∨
    ∃ d more gap rest, Scan.isNameChar d = true ∧ (∀ x ∈ more, Scan.isNameChar x = true) ∧
      IsGap gap ∧ (skipBlank c).rest = d :: (more ++ (gap ++ ':' :: rest)) := by
  obtain ⟨gap, more, gap', rest, hgap, hmore, hgap', hs⟩ := h
  obtain ⟨n, s⟩ := c
  dsimp only at hs
  subst hs
  cases more with
  | nil =>
    refine .inl ⟨rest, ?_⟩
    show (skip .blanks n (gap ++ (gap' ++ ':' :: rest))).rest = _
    rw [skip_gap hgap, skip_gap hgap', skip_token (by decide) (by decide)]
  | cons d more =>
    have hd := hmore d List.mem_cons_self
    obtain ⟨hblank, hslash⟩ := not_gapStart_of_isNameChar hd
    exact .inr ⟨d, more, gap', rest, hd, fun x hx => hmore x (List.mem_cons_of_mem _ hx), hgap',
      rest_skip_gap hgap hblank hslash n _⟩

/-- Before a colon nothing is read that begins with another sign. -/
theorem BeforeColon.refuses {α : Type} {p : Reader α} {cs : List Char} {c : Cursor}
    (h : BeforeColon c.rest) (hp : Needs p (oneOf false cs))
    (hcs : ∀ d ∈ cs, Scan.isNameChar d = false ∧ d ≠ ':') : (p c).result = none := by
  cases hresult : (p c).result with
  | none => rfl
  | some x =>
    obtain ⟨d, hd, hkind⟩ := hp c x hresult
    have hmem : d ∈ cs := by
      rwa [oneOf, Bool.false_and, Bool.false_or, List.contains_iff_mem] at hkind
    rcases h.ahead with ⟨rest, hrest⟩ | ⟨e, more, gap, rest, he, -, -, hrest⟩
    · rw [hrest] at hd
      cases hd
      exact absurd rfl (hcs _ hmem).2
    · rw [hrest] at hd
      cases hd
      rw [(hcs _ hmem).1] at he
      cases he

theorem scan_of_token {scan : Scan} {c c' : Cursor} {a : String}
    (h : (token scan c).result = some (a, c')) :
    ∃ text, scan (skipBlank c).rest = some (text, c'.rest) := by
  unfold token at h
  dsimp only at h
  split at h
  · rename_i text rest hscan
    cases h
    exact ⟨text, hscan⟩
  · cases h

/-- What no gap begins with does not begin with a character of a name or is none. -/
theorem IsGap.not_isNameChar {gap rest : List Char} (h : IsGap gap) :
    ∀ c ∈ (gap ++ ':' :: rest).head?, Scan.isNameChar c = false := by
  intro c hc
  cases gap with
  | nil =>
    cases hc
    rfl
  | cons d gap =>
    have hgap : ∀ c ∈ gapStarts, Scan.isNameChar c = false := by decide
    exact hgap c (h.head_mem hc)

/-- A word that is read before a colon is read in a name, and leaves the rest of it. -/
theorem BeforeColon.after_word {w : String} {a : String} {c c' : Cursor} (h : BeforeColon c.rest)
    (hw : ∀ x ∈ w.toList, Scan.isNameChar x = true) (hne : w.toList ≠ [])
    (hread : (word w c).result = some (a, c')) : BeforeColon c'.rest := by
  obtain ⟨text, hscan⟩ := scan_of_token hread
  obtain ⟨k, ks, hks⟩ := List.exists_cons_of_ne_nil hne
  rcases h.ahead with ⟨rest, hrest⟩ | ⟨d, more, gap, rest, hd, hmore, hgap, hrest⟩
  · rw [hrest, hks] at hscan
    have hk : Scan.isNameChar k = true := hw k (hks ▸ List.mem_cons_self)
    have hcolon : k ≠ ':' := by
      rintro rfl
      cases hk
    rw [exactly_ne hcolon.symm] at hscan
    cases hscan
  · rw [hrest, ← List.cons_append] at hscan
    obtain ⟨extra, hname, hrest'⟩ := Scan.exactly_in_name hw hgap.not_isNameChar hscan
    refine ⟨[], extra, gap, rest, .nil, fun x hx => ?_, hgap, hrest'⟩
    have hmem : x ∈ d :: more := hname ▸ List.mem_append_right _ hx
    rcases List.mem_cons.mp hmem with rfl | hx
    · exact hd
    · exact hmore x hx

/-- A name that is read before a colon is read up to its end. -/
theorem BeforeColon.after_name {kind : Char → Bool} {a : String} {c c' : Cursor}
    (h : BeforeColon c.rest) (hkind : kind ':' = false)
    (hread : (token (Scan.name kind) c).result = some (a, c')) : BeforeColon c'.rest := by
  obtain ⟨text, hscan⟩ := scan_of_token hread
  rcases h.ahead with ⟨rest, hrest⟩ | ⟨d, more, gap, rest, hd, hmore, hgap, hrest⟩
  · rw [hrest, Scan.name, hkind] at hscan
    cases hscan
  · rw [hrest, Scan.name] at hscan
    split at hscan
    · rw [Scan.run_stops hmore hgap.not_isNameChar] at hscan
      have hrest' := (Prod.mk.inj (Option.some.inj hscan)).2
      exact ⟨gap, [], [], rest, hgap, List.forall_mem_nil _, .nil, hrest'.symm⟩
    · cases hscan

theorem BeforeColon.after_identifier {a : String} {c c' : Cursor} (h : BeforeColon c.rest)
    (hread : (identifier c).result = some (a, c')) : BeforeColon c'.rest := by
  rcases result_or_eq_some hread with hread | hread
  · exact h.after_name rfl hread
  · exact h.after_name rfl hread

theorem result_many {α : Type} {p : Reader α} {c c' : Cursor} {as : List α}
    (hnone : (p c).result = none) (h : (many p c).result = some (as, c')) : c' = c := by
  obtain ⟨o, c₁, hoptional, hread⟩ := result_bind_eq_some h
  rcases result_optional_eq_some hoptional with ⟨a, -, ha⟩ | ⟨rfl, rfl⟩
  · rw [hnone] at ha
    cases ha
  · cases hread
    rfl

/-- No grammar declaration begins before the colon of a rule, whatever the name of the rule. -/
theorem BeforeColon.no_grammarDeclaration {c : Cursor} (h : BeforeColon c.rest) :
    (grammarDeclaration c).result = none := by
  cases hresult : (grammarDeclaration c).result with
  | none => rfl
  | some x =>
    obtain ⟨kind, c₁, hkind, hread⟩ := result_bind_eq_some hresult
    have h₁ : BeforeColon c₁.rest := by
      rcases result_optional_eq_some hkind with ⟨k, -, hk⟩ | ⟨-, rfl⟩
      · rcases result_or_eq_some hk with hk | hk <;>
        · obtain ⟨w, c', hword, hpure⟩ := result_bind_eq_some hk
          cases hpure
          exact h.after_word (by decide) (by decide) hword
      · exact h
    obtain ⟨w, c₂, hgrammar, hread⟩ := result_bind_eq_some hread
    have h₂ := h₁.after_word (by decide) (by decide) hgrammar
    obtain ⟨name, c₃, hname, hread⟩ := result_bind_eq_some hread
    have h₃ := h₂.after_identifier hname
    obtain ⟨w', c₄, hsemicolon, hread⟩ := result_bind_eq_some hread
    rw [h₃.refuses (p := word ";") (needs_exactly (k := ';') rfl) (by decide)] at hsemicolon
    cases hsemicolon

/-- A keyword is not read before a colon if what follows it begins with another sign. -/
theorem BeforeColon.no_keyword {α : Type} {w : String} {f : String → Reader α} {cs : List Char}
    {c : Cursor} (h : BeforeColon c.rest) (hw : ∀ x ∈ w.toList, Scan.isNameChar x = true)
    (hne : w.toList ≠ []) (hf : ∀ a, Needs (f a) (oneOf false cs))
    (hcs : ∀ d ∈ cs, Scan.isNameChar d = false ∧ d ≠ ':') : ((word w >>= f) c).result = none := by
  cases hresult : ((word w >>= f) c).result with
  | none => rfl
  | some x =>
    obtain ⟨a, c', hword, hread⟩ := result_bind_eq_some hresult
    rw [(h.after_word hw hne hword).refuses (hf a) hcs] at hread
    cases hread

/-- An import ends with a semicolon. -/
theorem BeforeColon.no_import {α : Type} {f : String → Reader α} {c : Cursor}
    (h : BeforeColon c.rest) :
    ((word "import" >>= fun _ => separated "," (identifier >>= fun _ =>
        optional (word "=" >>= fun _ => identifier) >>= fun _ => Pure.pure ()) >>= fun _ =>
      word ";" >>= f) c).result = none := by
  cases hresult : ((word "import" >>= fun _ => separated "," (identifier >>= fun _ =>
        optional (word "=" >>= fun _ => identifier) >>= fun _ => Pure.pure ()) >>= fun _ =>
      word ";" >>= f) c).result with
  | none => rfl
  | some x =>
    obtain ⟨w, c₁, hword, hread⟩ := result_bind_eq_some hresult
    have h₁ := h.after_word (by decide) (by decide) hword
    obtain ⟨names, c₄, hnames, hread⟩ := result_bind_eq_some hread
    obtain ⟨first, c₃, hfirst, hmore⟩ := result_bind_eq_some hnames
    obtain ⟨name, c₂, hname, hfirst⟩ := result_bind_eq_some hfirst
    have h₂ := h₁.after_identifier hname
    -- neither another name nor another import follows
    obtain ⟨o, c₃', hoptional, hpure⟩ := result_bind_eq_some hfirst
    cases hpure
    rcases result_optional_eq_some hoptional with ⟨a, -, hequals⟩ | ⟨-, rfl⟩
    · rw [h₂.refuses (p := word "=" >>= fun _ => identifier) (needs_exactly (k := '=') rfl).bind
        (by decide)] at hequals
      cases hequals
    obtain ⟨more, c₄', hmany, hpure⟩ := result_bind_eq_some hmore
    cases hpure
    obtain rfl := result_many (h₂.refuses (needs_exactly (k := ',') rfl).bind (by decide)) hmany
    obtain ⟨w', c₅, hsemicolon, -⟩ := result_bind_eq_some hread
    rw [h₂.refuses (p := word ";") (needs_exactly (k := ';') rfl) (by decide)] at hsemicolon
    cases hsemicolon

/-- Nothing that may stand before the rules begins before the colon of a rule. -/
theorem BeforeColon.no_prequel {c : Cursor} (h : BeforeColon c.rest) :
    (prequel c).result = none := by
  refine result_firstOf fun p hp => ?_
  simp only [List.mem_cons, List.not_mem_nil, or_false] at hp
  rcases hp with rfl | rfl | rfl | rfl | rfl
  · exact h.no_keyword (by decide) (by decide) (fun _ => needs_code.bind) (by decide)
  · exact h.no_keyword (by decide) (by decide) (fun _ => needs_code.bind) (by decide)
  · exact h.no_keyword (by decide) (by decide) (fun _ => needs_code.bind) (by decide)
  · exact h.no_import
  · exact h.refuses (needs_exactly rfl).bind (by decide)

/-- No exception handler begins before the colon of a rule. -/
theorem BeforeColon.no_exceptionHandler {c : Cursor} (h : BeforeColon c.rest) :
    (exceptionHandler c).result = none := by
  refine result_firstOf fun p hp => ?_
  simp only [List.mem_cons, List.not_mem_nil, or_false] at hp
  rcases hp with rfl | rfl
  · exact h.no_keyword (by decide) (by decide) (fun _ => (needs_enclosed _ _ _).bind) (by decide)
  · exact h.no_keyword (by decide) (by decide) (fun _ => needs_code.bind) (by decide)

/-! ## 2. Heads and bodies -/

/-- What follows the name of a declaration: nothing that would go on with the name, and then some
    tokens up to `s'`. -/
structure Follows (n : AnyName) (ts : List Lexeme) (rest s' : List Char) : Prop where
  valid : n.lexeme.Valid
  apart : n.lexeme.Apart rest
  steps : Steps ts rest s'

theorem refuses_ruleHeader (us : List Lexeme) : Refuses ruleHeader (.sign ":" :: us) := by
  have hcolon : ∀ t ∈ (Lexeme.sign ":" :: us).head?, t.isName = false := by
    rintro _ ⟨⟩
    rfl
  refine refuses_firstOf fun p hp => ?_
  simp only [List.mem_cons, List.not_mem_nil, or_false] at hp
  rcases hp with rfl | rfl | rfl | rfl | rfl | rfl
  · exact (needs_argument.refuses (avoids_cons rfl)).bind
  · exact refuses_word rfl rfl hcolon
  · exact refuses_word rfl rfl hcolon
  · exact refuses_word rfl rfl hcolon
  · exact refuses_word rfl rfl hcolon
  · exact ((needs_exactly (k := '@') rfl).refuses (avoids_cons rfl)).bind

/-- The name of a declaration is read with its place. -/
theorem reads_declarationHead {n : AnyName} {ts : List Lexeme} {gap rest s' : List Char}
    (hgap : IsGap gap) (h : Follows n (.sign ":" :: ts) rest s') (hus : Spelled us s')
    (hN : (gap ++ (n.lexeme.text ++ rest)).length ≤ N) :
    ∃ s, Reads N declarationHead (gap ++ (n.lexeme.text ++ rest))
      (n.string, N - (n.lexeme.text ++ rest).length) s ∧ Steps ts s s' ∧ s.length ≤ N := by
  have hsteps : Steps ([.sign ":"] ++ ts) rest s' := h.steps
  obtain ⟨s, hcolon, hts⟩ := hsteps.of_append
  have hspelled := h.steps.spelled hus
  have hrest : rest.length ≤ N := by
    rw [List.length_append, List.length_append] at hN
    omega
  refine ⟨s, ?_, hts, hcolon.length_le hrest⟩
  have hplace : Reads N place (gap ++ (n.lexeme.text ++ rest))
      (N - (n.lexeme.text ++ rest).length) (gap ++ (n.lexeme.text ++ rest)) := by
    show some ((skipBlank (placeAt N (gap ++ (n.lexeme.text ++ rest)))).position, _) = _
    rw [skipBlank_text hgap h.valid hN]
    rfl
  have hname : Reads N identifier (gap ++ (n.lexeme.text ++ rest)) n.string rest :=
    takes_identifier n _ N _ _ hN (.cons hgap h.valid h.apart (.nil rest)) hspelled
  have hheader : Reads N (many ruleHeader) rest [] rest :=
    (refuses_ruleHeader _).many N _ _ hrest (.nil rest) hspelled
  have hsign : Reads N (word ":") rest ":" s :=
    takes_word ":" _ N _ _ hrest hcolon (hts.spelled hus)
  exact hplace.bind (hname.bind (hheader.bind (hsign.bind (reads_pure _ s))))

/-- A name is the word `fragment` and another name. -/
def Name.Merges (n : AnyName) : Prop :=
  ∃ m : AnyName, n.first :: n.more = "fragment".toList ++ (m.first :: m.more)

/-- No keyword is read from a name that does not go on with another name behind it. -/
theorem fails_fragment {n : AnyName} {ts : List Lexeme} {gap rest s' : List Char}
    (hgap : IsGap gap) (h : Follows n (.sign ":" :: ts) rest s') (hus : Spelled us s')
    (hN : (gap ++ (n.lexeme.text ++ rest)).length ≤ N) (hname : ¬ n.Merges)
    {f : String × Nat → Reader (Bool × String × Nat)} :
    Fails N (word "fragment" >>= fun _ => declarationHead >>= f)
      (gap ++ (n.lexeme.text ++ rest)) := by
  have hplace : ∀ s, Reads N place s (skipBlank (placeAt N s)).position s := fun _ => rfl
  refine fails_keyword hgap h.valid h.apart hN (by decide) (by decide) ?_ ?_
  · intro _ hrest
    have hrefuses : Refuses identifier (.sign ":" :: (ts ++ us)) :=
      needs_identifier.refuses (avoids_cons rfl)
    have hidentifier := hrefuses N rest hrest (h.steps.spelled hus)
    exact Fails.bind ((hplace rest).bind_fails hidentifier.bind)
  · intro c extra hsplit hblank hslash
    have halpha : c.isAlpha = false := by
      rw [← Bool.not_eq_true]
      exact fun ha => hname ⟨⟨c, extra, ha⟩, hsplit⟩
    have hidentifier : Fails N identifier (c :: (extra ++ rest)) :=
      needs_identifier.fails hblank hslash (by simp [oneOf, halpha])
    exact Fails.bind ((hplace _).bind_fails hidentifier.bind)

/-! ## 3. Declarations -/

/-- Behind the head of a declaration come its body, a semicolon and no exception handler. -/
theorem reads_declarationBody {depth : Nat} {ts : List Lexeme} {e : Expr} {s s' : List Char}
    (hts : Takes (alternatives (block depth)) ts e (.sign ";" :: us))
    (hnone : Fails N exceptionHandler s') (hsteps : Steps (ts ++ [.sign ";"]) s s')
    (hspelled : Spelled us s') (hN : s.length ≤ N) (fragment : Bool) (name : String)
    (position : Nat) :
    Reads N (alternatives (block depth) >>= fun body => word ";" >>= fun _ =>
        many exceptionHandler >>= fun _ =>
          Pure.pure ({ name, position, fragment, body } : Declaration)) s
      { name, position, fragment, body := e } s' := by
  obtain ⟨s₁, hbody, hsemicolon⟩ := hsteps.of_append
  have hs₁ := hbody.length_le hN
  have hword := takes_word ";" us N s₁ s' hs₁ hsemicolon hspelled
  have hmany : Reads N (many exceptionHandler) s' [] s' := hnone.upTo _
  exact (hts N s s₁ hN hbody (hsemicolon.spelled hspelled)).bind
    (hword.bind (hmany.bind (reads_pure _ s')))

/-- **A declaration is read with the name that it is written with**, unless the word `fragment`
    would be read from the name. -/
theorem reads_declaration {depth : Nat} {n : AnyName} {ts : List Lexeme} {e : Expr}
    {gap rest s' : List Char} (hgap : IsGap gap)
    (h : Follows n (.sign ":" :: (ts ++ [.sign ";"])) rest s') (hspelled : Spelled us s')
    (hts : Takes (alternatives (block depth)) ts e (.sign ";" :: us))
    (hnone : Fails N exceptionHandler s') (hN : (gap ++ (n.lexeme.text ++ rest)).length ≤ N)
    (hname : ¬ n.Merges) :
    Reads N (declaration depth) (gap ++ (n.lexeme.text ++ rest))
      ⟨n.string, N - (n.lexeme.text ++ rest).length, false, e⟩ s' := by
  obtain ⟨s, hhead, hsteps, hs⟩ := reads_declarationHead hgap h hspelled hN
  have hplain : Reads N (declarationHead >>= fun head => Pure.pure (false, head))
      (gap ++ (n.lexeme.text ++ rest)) (false, n.string, N - (n.lexeme.text ++ rest).length) s :=
    hhead.bind (reads_pure _ s)
  have hkeyword : Fails N (word "fragment" >>= fun _ => declarationHead >>= fun head =>
      Pure.pure (true, head)) (gap ++ (n.lexeme.text ++ rest)) :=
    fails_fragment hgap h hspelled hN hname
  exact Reads.bind (hkeyword.or.trans hplain)
    (reads_declarationBody hts hnone hsteps hspelled hs _ _ _)

/-- **Behind the word `fragment` every name is read as it is written**, even where nothing stands
    between the two. -/
theorem reads_fragmentDeclaration {depth : Nat} {n : AnyName} {ts : List Lexeme} {e : Expr}
    {gap gap' rest s' : List Char} (hgap : IsGap gap) (hgap' : IsGap gap')
    (h : Follows n (.sign ":" :: (ts ++ [.sign ";"])) rest s') (hspelled : Spelled us s')
    (hts : Takes (alternatives (block depth)) ts e (.sign ";" :: us))
    (hnone : Fails N exceptionHandler s')
    (hN : (gap ++ ("fragment".toList ++ (gap' ++ (n.lexeme.text ++ rest)))).length ≤ N) :
    Reads N (declaration depth) (gap ++ ("fragment".toList ++ (gap' ++ (n.lexeme.text ++ rest))))
      ⟨n.string, N - (n.lexeme.text ++ rest).length, true, e⟩ s' := by
  have hN' : (gap' ++ (n.lexeme.text ++ rest)).length ≤ N := by
    rw [List.length_append, List.length_append] at hN
    omega
  obtain ⟨s, hhead, hsteps, hs⟩ := reads_declarationHead hgap' h hspelled hN'
  have hkeyword : Reads N (word "fragment") _ "fragment" _ := reads_word hgap rfl (by decide) hN
  have hfragment : Reads N (word "fragment" >>= fun _ => declarationHead >>= fun head =>
      Pure.pure (true, head)) _ (true, n.string, N - (n.lexeme.text ++ rest).length) s :=
    hkeyword.bind (hhead.bind (reads_pure _ s))
  exact Reads.bind hfragment.or (reads_declarationBody hts hnone hsteps hspelled hs _ _ _)

/-! ## 4. Files of declarations -/

/-- A declaration begins here, with a name before its colon or with the word `fragment`, or the
    text ends. -/
def BetweenDeclarations (s : List Char) : Prop :=
  BeforeColon s ∨ (∃ gap rest, IsGap gap ∧ s = gap ++ ("fragment".toList ++ rest)) ∨ IsGap s

/-- Another word than `fragment` is ahead. -/
theorem fails_otherWord {α : Type} {w : String} {f : String → Reader α} {gap : List Char}
    (hgap : IsGap gap) (rest : List Char)
    (hN : (gap ++ ("fragment".toList ++ rest)).length ≤ N)
    (h : Scan.exactly w.toList ("fragment".toList ++ rest) = none) :
    Fails N (word w >>= f) (gap ++ ("fragment".toList ++ rest)) := by
  refine Fails.bind (fails_token ?_)
  rw [skipBlank_gap hgap hN]
  have hskip : skipBlank (placeAt N ("fragment".toList ++ rest)) =
      placeAt N ("fragment".toList ++ rest) := skipBlank_token (by decide) (by decide) _
  rw [hskip]
  exact h

/-- A reader that needs something fails at the end of a text. -/
theorem fails_end {α : Type} {p : Reader α} {kind : Char → Bool} (hp : Needs p kind)
    {tail : List Char} (htail : IsGap tail) (hN : tail.length ≤ N) : Fails N p tail :=
  hp.refuses (avoids_nil kind) N tail hN ⟨tail, .nil tail, htail⟩

theorem fails_word_end {α : Type} {w : String} {f : String → Reader α} {k : Char} {ks : List Char}
    (hw : w.toList = k :: ks) {tail : List Char} (htail : IsGap tail) (hN : tail.length ≤ N) :
    Fails N (word w >>= f) tail := (fails_end (needs_exactly hw) htail hN).bind

theorem BetweenDeclarations.no_grammarDeclaration {s : List Char} (h : BetweenDeclarations s)
    (hN : s.length ≤ N) : Fails N grammarDeclaration s := by
  have hkinds (hword : ∀ (w : String) (α : Type) (f : String → Reader α),
      w ∈ ["lexer", "parser", "grammar"] → Fails N (word w >>= f) s) :
      Fails N grammarDeclaration s := by
    have hkind : Fails N (firstOf [word "lexer" >>= fun _ => Pure.pure GrammarKind.lexer,
        word "parser" >>= fun _ => Pure.pure GrammarKind.parser]) s :=
      (hword "lexer" _ _ (by decide)).or.trans (hword "parser" _ _ (by decide))
    exact hkind.optional.bind_fails (hword "grammar" _ _ (by decide))
  rcases h with h | ⟨gap, rest, hgap, rfl⟩ | htail
  · exact BeforeColon.no_grammarDeclaration (c := placeAt N s) h
  · refine hkinds fun w α f hw => ?_
    simp only [List.mem_cons, List.not_mem_nil, or_false] at hw
    rcases hw with rfl | rfl | rfl <;> exact fails_otherWord hgap rest hN rfl
  · refine hkinds fun w α f hw => ?_
    simp only [List.mem_cons, List.not_mem_nil, or_false] at hw
    rcases hw with rfl | rfl | rfl <;> exact fails_word_end rfl htail hN

theorem fails_firstOf {α : Type} {ps : List (Reader α)} {s : List Char}
    (h : ∀ p ∈ ps, Fails N p s) : Fails N (firstOf ps) s := result_firstOf h

theorem BetweenDeclarations.no_prequel {s : List Char} (h : BetweenDeclarations s)
    (hN : s.length ≤ N) : Fails N prequel s := by
  rcases h with h | ⟨gap, rest, hgap, rfl⟩ | htail
  · exact BeforeColon.no_prequel (c := placeAt N s) h
  · refine fails_firstOf fun p hp => ?_
    simp only [List.mem_cons, List.not_mem_nil, or_false] at hp
    rcases hp with rfl | rfl | rfl | rfl | rfl <;> exact fails_otherWord hgap rest hN rfl
  · refine fails_firstOf fun p hp => ?_
    simp only [List.mem_cons, List.not_mem_nil, or_false] at hp
    rcases hp with rfl | rfl | rfl | rfl | rfl <;> exact fails_word_end rfl htail hN

theorem BetweenDeclarations.no_exceptionHandler {s : List Char} (h : BetweenDeclarations s)
    (hN : s.length ≤ N) : Fails N exceptionHandler s := by
  rcases h with h | ⟨gap, rest, hgap, rfl⟩ | htail
  · exact BeforeColon.no_exceptionHandler (c := placeAt N s) h
  · refine fails_firstOf fun p hp => ?_
    simp only [List.mem_cons, List.not_mem_nil, or_false] at hp
    rcases hp with rfl | rfl <;> exact fails_otherWord hgap rest hN rfl
  · refine fails_firstOf fun p hp => ?_
    simp only [List.mem_cons, List.not_mem_nil, or_false] at hp
    rcases hp with rfl | rfl <;> exact fails_word_end rfl htail hN

/-- A part of a file: a declaration or a mode. -/
def part (depth : Nat) : Reader (Option Declaration) :=
  (declaration depth >>= fun d => Pure.pure (some d)).or (modeSpec >>= fun _ => Pure.pure none)

theorem fails_part_end (depth : Nat) {tail : List Char} (htail : IsGap tail)
    (hN : tail.length ≤ N) : Fails N (part depth) tail := by
  have hfragment : Fails N (word "fragment" >>= fun _ => declarationHead >>= fun head =>
      Pure.pure (true, head)) tail := fails_word_end rfl htail hN
  have hhead : Fails N (declarationHead >>= fun head => Pure.pure (false, head)) tail := by
    have hplace : Reads N place tail (skipBlank (placeAt N tail)).position tail := rfl
    exact (hplace.bind_fails (fails_end needs_identifier htail hN).bind).bind
  have hmode : Fails N modeSpec tail := fails_word_end rfl htail hN
  have hdeclaration : Fails N (declaration depth) tail := Fails.bind (hfragment.or.trans hhead)
  exact hdeclaration.bind.or.trans hmode.bind

/-- However often a file may go on, it goes on with some declarations up to its end. -/
def ReadsParts (N depth : Nat) (s : List Char) (ds : List Declaration) (s' : List Char) : Prop :=
  ∀ n, ds.length ≤ n → Reads N (upTo (part depth) n) s (ds.map some) s'

theorem readsParts_nil {depth : Nat} {tail : List Char} (htail : IsGap tail)
    (hN : tail.length ≤ N) : ReadsParts N depth tail [] tail :=
  fun n _ => (fails_part_end depth htail hN).upTo n

theorem ReadsParts.cons {depth : Nat} {s s' s'' : List Char} {d : Declaration}
    {ds : List Declaration} (hd : Reads N (declaration depth) s d s')
    (hds : ReadsParts N depth s' ds s'') : ReadsParts N depth s (d :: ds) s'' := by
  intro n hn
  obtain ⟨n, rfl⟩ : ∃ k, n = k + 1 := ⟨n - 1, by rw [List.length_cons] at hn; omega⟩
  have hpart : Reads N (part depth) s (some d) s' := (hd.bind (reads_pure (some d) s')).or
  exact hpart.upTo (hds n (Nat.le_of_succ_le_succ hn))

/-- A file is read that holds nothing but declarations. -/
theorem reads_file {depth : Nat} {s tail : List Char} {ds : List Declaration}
    (h : BetweenDeclarations s) (hparts : ReadsParts N depth s ds tail)
    (hlength : ds.length ≤ s.length) (htail : IsGap tail) (hN : s.length ≤ N)
    (hNtail : tail.length ≤ N) : Reads N (file depth) s ⟨none, ds⟩ [] := by
  have hgrammar := h.no_grammarDeclaration hN
  have hnone : Reads N (many prequel) s [] s := (h.no_prequel hN).upTo _
  have hmany : Reads N (many (part depth)) s (ds.map some) tail :=
    hparts (s.length + 1) (Nat.le_succ_of_le hlength)
  have hall : (ds.map some).filterMap id = ds := by simp
  have hpure : Reads N (Pure.pure (⟨none, (ds.map some).filterMap id⟩ : FileContent)) []
      ⟨none, ds⟩ [] := by
    rw [hall]
    exact reads_pure _ []
  exact hgrammar.optional.bind (hnone.bind (hmany.bind ((reads_ending htail hNtail).bind hpure)))

theorem read_of_reads_file {text : List Char} {ds : List Declaration}
    (h : Reads text.length (file text.length) text ⟨none, ds⟩ []) :
    Grammar.read text = .ok { rules := ds.map (·.toRule text) } := by
  have hstart : Cursor.start text = placeAt text.length text := by
    rw [Cursor.start, placeAt, Nat.sub_self]
  unfold Grammar.read
  dsimp only
  rw [hstart, h]
  rfl

end GrammarManual.G4
