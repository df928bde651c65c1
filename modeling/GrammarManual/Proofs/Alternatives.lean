import GrammarManual.Proofs.Bodies

/-!
# Proofs/Alternatives: elements and endings of alternatives

The second part of `Proofs/Bodies`: atoms with their labels and suffixes, predicates and actions,
lexer commands, names of alternatives. A group counts as an element here whose inside is read
somehow; `Proofs/Groups` closes the circle.
-/

namespace GrammarManual.G4

open Reader

variable {us : List Lexeme}

/-! ## 1. Elements -/

theorem takes_suffix (suffix : Option Suffix) (h : Behind us) :
    Takes G4.suffix (suffixTokens suffix)
      (suffix.map fun s => String.ofList (Lexeme.suffix s.times s.greedy).text) us := by
  cases suffix with
  | none =>
    have hrefuses : Refuses (token Scan.suffix) us :=
      (needs_suffix.imp (oneOf_mono nofun (by decide))).refuses h.avoids
    exact hrefuses.optional
  | some s => exact (takes_token (Scan.scans_suffix s.times s.greedy) us).optional

theorem withSuffix_eq (e : Expr) (suffix : Option Suffix) :
    withSuffix e (suffix.map fun s => String.ofList (Lexeme.suffix s.times s.greedy).text) =
      suffixed suffix e := by
  cases suffix with
  | none => rfl
  | some s =>
    obtain ⟨times, greedy⟩ := s
    cases times <;> cases greedy <;> simp [withSuffix, suffixed, Lexeme.text, repetitionOf] <;> rfl

/-- An operand and the suffix behind it. -/
theorem takes_suffixed {p : Reader Expr} {ts : List Lexeme} {e : Expr} {suffix : Option Suffix}
    (hp : Takes p ts e (suffixTokens suffix ++ us)) (h : Behind us) :
    Takes (p >>= fun e => G4.suffix >>= fun s => Pure.pure (withSuffix e s))
      (ts ++ suffixTokens suffix) (suffixed suffix e) us :=
  hp.bind ((takes_suffix suffix h).bind_pure (congrArg Pure.pure (withSuffix_eq e suffix)))

theorem takes_labelSign (collects : Bool) (us : List Lexeme) :
    Takes (token Scan.labelSign) [.sign (if collects then "+=" else "=")]
      (if collects then "+=" else "=") us := by
  cases collects with
  | false => exact takes_token (Scan.scans_labelSign (.inl rfl)) us
  | true => exact takes_token (Scan.scans_labelSign (.inr rfl)) us

/-- No label stands before an atom that has none. -/
theorem refuses_label {α : Type} {f : String → Reader α} {a : Atom} {suffix : Option Suffix}
    (h : BehindAtom (suffixTokens suffix ++ us)) :
    Refuses (identifier >>= fun _ => token Scan.labelSign >>= f)
      (a.tokens ++ (suffixTokens suffix ++ us)) := by
  have hnamed : ∀ (n : AnyName) (ts : List Lexeme),
      (∀ t ∈ (ts ++ (suffixTokens suffix ++ us)).head?, t ≠ .sign "=" ∧ t ≠ .sign "+=") →
      Refuses (identifier >>= fun _ => token Scan.labelSign >>= f)
        (n.lexeme :: (ts ++ (suffixTokens suffix ++ us))) := fun n ts hts =>
    (takes_identifier n _).bind_refuses (refuses_labelSign hts).bind
  have hother : ∀ (t : Lexeme) (ts : List Lexeme), t.isName = false →
      Refuses (identifier >>= fun _ => token Scan.labelSign >>= f) (t :: ts) := by
    intro t ts ht
    refine (needs_identifier.refuses (avoids_cons ?_)).bind
    rw [Lexeme.avoids, ht]
    rfl
  have hoptions : ∀ options, ∀ t ∈ (optionTokens options ++ (suffixTokens suffix ++ us)).head?,
      t ≠ .sign "=" ∧ t ≠ .sign "+=" := fun options =>
    head_options options (fun _ => by simp) h.not_labelSign
  cases a with
  | member m =>
    cases m with
    | token name options =>
      exact hnamed ⟨name.first, name.more, isAlpha_of_isUpper _ name.isKind⟩ _ (hoptions options)
    | range f l => exact hother _ _ rfl
    | literal inner options => exact hother _ _ rfl
    | charset inner inline => exact hother _ _ rfl
  | rule name argument options =>
    refine hnamed ⟨name.first, name.more, isAlpha_of_isLower _ name.isKind⟩ _ ?_
    cases argument with
    | none => exact hoptions options
    | some inner =>
      rintro _ ⟨⟩
      simp
  | wildcard options => exact hother _ _ rfl
  | negated m => exact hother _ _ rfl
  | negatedSet f more => exact hother _ _ rfl

/-- A label and the operand behind it. -/
theorem takes_labelled {p : Reader Expr} {label : Label} {ts : List Lexeme} {e : Expr}
    {suffix : Option Suffix} (hp : Takes p ts e (suffixTokens suffix ++ us)) (h : Behind us) :
    Takes (identifier >>= fun _ => token Scan.labelSign >>= fun _ =>
        p >>= fun e => G4.suffix >>= fun s => Pure.pure (withSuffix e s))
      (labelTokens (some label) ++ (ts ++ suffixTokens suffix)) (suffixed suffix e) us :=
  (takes_identifier label.name _).bind
    ((takes_labelSign label.collects _).bind (takes_suffixed hp h))

/-- A suffix that may be there, and what follows an element, do not go on with an atom. -/
theorem Behind.behindSuffix (h : Behind us) (suffix : Option Suffix) :
    BehindAtom (suffixTokens suffix ++ us) :=
  head_suffix suffix (fun _ _ => rfl) h.atom

/-- **An atom with its label and suffix is read as it is meant.** -/
theorem takes_atomElement {b : Reader Expr} {first : Bool} {label : Option Label} {a : Atom}
    {suffix : Option Suffix} (hclear : a.Clear first suffix us) (h : Behind us) :
    Takes (element b first) (Item.atom label a suffix).tokens (Item.atom label a suffix).expr
      us := by
  have hatom := takes_atom hclear (h.behindSuffix suffix)
  rw [Item.tokens, Item.expr]
  cases label with
  | some l => exact (takes_labelled hatom.or h).firstOf
  | none =>
    have hlabel := refuses_label (a := a) (f := fun _ => (atom first).or b >>= fun e =>
      G4.suffix >>= fun s => Pure.pure (withSuffix e s)) (h.behindSuffix suffix)
    rw [← List.append_assoc] at hlabel
    exact Refuses.firstOf_takes hlabel (takes_suffixed hatom h).firstOf

/-- What begins with a parenthesis or a brace has no label and is no atom. -/
theorem Takes.noAtom {p : Reader Expr} {ps : List (Reader Expr)} {first : Bool} {t : Lexeme}
    {ts : List Lexeme} {e : Expr} {f : String → Reader Expr} {k : Expr → Reader Expr}
    (ht : t.avoids true atomStarts = true) (h : Takes (firstOf (p :: ps)) (t :: ts) e us) :
    Takes (firstOf ((identifier >>= f) :: (atom first >>= k) :: p :: ps)) (t :: ts) e us := by
  have hletters : t.avoids true [] = true := by
    rw [Lexeme.avoids, Bool.and_eq_true] at ht ⊢
    exact ⟨ht.1, rfl⟩
  exact Refuses.firstOf_takes (needs_identifier.refuses (avoids_cons hletters)).bind
    (Refuses.firstOf_takes ((needs_atom first).refuses (avoids_cons ht)).bind h)

/-- **A group with its label and suffix is read as it is meant**, if its inside is. -/
theorem takes_groupElement {b : Reader Expr} {first : Bool} {label : Option Label} {body : Body}
    {suffix : Option Suffix}
    (hbody : Takes b (.sign "(" :: (body.tokens ++ [.sign ")"])) body.expr
      (suffixTokens suffix ++ us)) (h : Behind us) :
    Takes (element b first) (Item.group label body suffix).tokens
      (Item.group label body suffix).expr us := by
  have htokens : (Item.group label body suffix).tokens = labelTokens label ++
      (.sign "(" :: (body.tokens ++ [.sign ")"]) ++ suffixTokens suffix) := by
    simp [Item.tokens]
  have hatom : Refuses (atom first)
      (.sign "(" :: (body.tokens ++ [.sign ")"]) ++ (suffixTokens suffix ++ us)) :=
    (needs_atom first).refuses (avoids_cons rfl)
  rw [htokens, Item.expr]
  cases label with
  | some l => exact (takes_labelled (hatom.or_takes hbody) h).firstOf
  | none => exact Takes.noAtom rfl (takes_suffixed hbody h).firstOf

/-- What begins with a brace is neither labelled nor an atom nor a group. -/
theorem Takes.noGroup {p : Reader Expr} {ps : List (Reader Expr)} {first : Bool} {depth : Nat}
    {inner : List Char} {ts : List Lexeme} {e : Expr} {f : String → Reader Expr}
    {k k' : Expr → Reader Expr} (h : Takes (firstOf (p :: ps)) (.code inner :: ts) e us) :
    Takes (firstOf ((identifier >>= f) :: (atom first >>= k) :: (block depth >>= k') :: p :: ps))
      (.code inner :: ts) e us :=
  Takes.noAtom rfl
    (Refuses.firstOf_takes ((needs_block depth).refuses (avoids_cons rfl)).bind h)

theorem takes_predicate (depth : Nat) (first : Bool) (inner : List Char) (us : List Lexeme) :
    Takes (element (block depth) first) (Item.predicate inner).tokens (Item.predicate inner).expr
      us := by
  rw [Item.tokens, Item.expr]
  have hcode : Takes (token Scan.code >>= fun code => word "?" >>= fun _ =>
      Pure.pure (Expr.predicate code)) ([.code inner] ++ [.sign "?"]) _ us :=
    (takes_token (Scan.scans_code inner) _).bind ((takes_word "?" us).bind_pure rfl)
  exact Takes.noGroup hcode.firstOf

/-- An action is no predicate: no question mark follows it. -/
theorem takes_action (depth : Nat) (first : Bool) (inner : List Char) (h : Behind us) :
    Takes (element (block depth) first) (Item.action inner).tokens (Item.action inner).expr us := by
  rw [Item.tokens, Item.expr]
  have hmark : Refuses (word "?") us :=
    ((needs_exactly rfl).imp (oneOf_mono nofun (by decide))).refuses h.avoids
  have hpredicate : Refuses (token Scan.code >>= fun code => word "?" >>= fun _ =>
      Pure.pure (Expr.predicate code)) ([.code inner] ++ us) :=
    (takes_token (Scan.scans_code inner) us).bind_refuses hmark.bind
  have hcode : Takes (token Scan.code >>= fun code => Pure.pure (Expr.action code)) [.code inner]
      _ us := (takes_token (Scan.scans_code inner) us).bind_pure rfl
  exact Takes.noGroup (Refuses.firstOf_takes hpredicate hcode.firstOf)

/-! ## 2. Endings of alternatives -/

/-- What ends an alternative. -/
def Closes (us : List Lexeme) : Prop :=
  ∀ t ∈ us.head?, t = .sign "|" ∨ t = .sign ")" ∨ t = .sign ";"

theorem closes_bar (us : List Lexeme) : Closes (.sign "|" :: us) := by
  rintro _ ⟨⟩
  exact .inl rfl

theorem Closes.avoids (h : Closes us) : Avoids us (oneOf true ['(', '{', '-', '#', ',']) := by
  refine avoids_of_head fun t ht => ?_
  rcases h t ht with rfl | rfl | rfl <;> rfl

/-- What follows the elements of an alternative. -/
def EndsElements (us : List Lexeme) : Prop :=
  ∀ t ∈ us.head?, t = .sign "->" ∨ t = .sign "#" ∨ t = .sign "|" ∨ t = .sign ")" ∨ t = .sign ";"

theorem EndsElements.behind (h : EndsElements us) : Behind us := by
  intro t ht
  rcases h t ht with rfl | rfl | rfl | rfl | rfl <;> rfl

/-- No element begins where an alternative ends. -/
theorem EndsElements.avoids (h : EndsElements us) :
    Avoids us (oneOf true ('(' :: '{' :: atomStarts)) := by
  refine avoids_of_head fun t ht => ?_
  rcases h t ht with rfl | rfl | rfl | rfl | rfl <;> rfl

theorem Ending.endsElements (e : Ending) (h : Closes us) :
    EndsElements (e.commandTokens ++ (e.nameTokens ++ us)) := by
  obtain ⟨commands, label⟩ := e
  cases commands with
  | some c =>
    rintro _ ⟨⟩
    exact .inl rfl
  | none =>
    cases label with
    | some n =>
      rintro _ ⟨⟩
      exact .inr (.inl rfl)
    | none => exact fun t ht => .inr (.inr (h t ht))

theorem takes_argumentOfCommand (a : CommandArgument) (us : List Lexeme) :
    Takes (identifier.or (token Scan.digits)) [a.lexeme] a.string us := by
  cases a with
  | name n => exact (takes_identifier n us).or
  | digits text =>
    exact Refuses.or_takes (needs_identifier.refuses (avoids_cons rfl))
      (takes_token (Scan.scans_digits text) us)

/-- A lexer command is read with its argument, if it has one. -/
theorem takes_lexerCommand (c : Command) (h : Avoids us (oneOf false ['('])) :
    Takes lexerCommand c.tokens c.string us := by
  obtain ⟨name, argument⟩ := c
  cases argument with
  | none =>
    have hnone : Refuses (word "(") us := (needs_exactly rfl).refuses h
    exact (takes_identifier name _).bind (hnone.bind.optional.bind_pure rfl)
  | some a =>
    have hargument : Takes (word "(" >>= fun _ => identifier.or (token Scan.digits) >>= fun a =>
        word ")" >>= fun _ => Pure.pure a) ([.sign "("] ++ ([a.lexeme] ++ [.sign ")"])) a.string
        us :=
      (takes_word "(" _).bind
        ((takes_argumentOfCommand a _).bind ((takes_word ")" us).bind_pure rfl))
    exact (takes_identifier name _).bind (hargument.optional.bind_pure rfl)

theorem takesMany_commands (commands : List Command)
    (h : Avoids us (oneOf false ['(', ','])) :
    TakesMany (word "," >>= fun _ => lexerCommand)
      (commands.flatMap fun c => .sign "," :: c.tokens) (commands.map Command.string) us := by
  induction commands with
  | nil =>
    have hrefuses : Refuses (word ",") us :=
      ((needs_exactly rfl).imp (oneOf_mono nofun (by decide))).refuses h
    exact hrefuses.bind.takesMany
  | cons c commands ih =>
    have hbehind : Avoids ((commands.flatMap fun c => .sign "," :: c.tokens) ++ us)
        (oneOf false ['(']) := by
      cases commands with
      | nil => exact h.mono nofun (by decide)
      | cons c' commands => exact avoids_cons rfl
    have hcommand : Takes (word "," >>= fun _ => lexerCommand) ([.sign ","] ++ c.tokens) c.string
        ((commands.flatMap fun c => .sign "," :: c.tokens) ++ us) :=
      (takes_word "," _).bind (takes_lexerCommand c hbehind)
    exact TakesMany.cons hcommand nofun ih

/-- The name of an alternative does not go on with its commands. -/
theorem Ending.avoids_name (e : Ending) (h : Closes us) :
    Avoids (e.nameTokens ++ us) (oneOf false ['-', '(', ',']) := by
  obtain ⟨commands, label⟩ := e
  cases label with
  | some n => exact avoids_cons rfl
  | none => exact h.avoids.mono nofun (by decide)

/-- Lexer commands are read as one action. -/
theorem takes_commands (e : Ending) (h : Closes us) :
    ∃ o : Option Expr, o.toList = e.exprs ∧
      Takes (optional lexerCommands) e.commandTokens o (e.nameTokens ++ us) := by
  have havoids := e.avoids_name h
  obtain ⟨commands, label⟩ := e
  cases commands with
  | none =>
    have hnone : Refuses (word "->") (Ending.nameTokens ⟨none, label⟩ ++ us) :=
      (needs_exactly rfl).refuses (havoids.mono nofun (by decide))
    exact ⟨none, rfl, hnone.bind.optional⟩
  | some cs =>
    obtain ⟨first, more⟩ := cs
    have hfirst : Avoids ((more.flatMap fun c => .sign "," :: c.tokens) ++
        (Ending.nameTokens ⟨some (first, more), label⟩ ++ us)) (oneOf false ['(']) := by
      cases more with
      | nil => exact havoids.mono nofun (by decide)
      | cons c more => exact avoids_cons rfl
    have hcommands : Takes (separated "," lexerCommand)
        (first.tokens ++ more.flatMap fun c => .sign "," :: c.tokens)
        (first.string :: more.map Command.string) _ :=
      takes_separated (takes_lexerCommand first hfirst)
        (takesMany_commands more (havoids.mono nofun (by decide)))
    have hall : Takes lexerCommands (Ending.commandTokens ⟨some (first, more), label⟩) _ _ :=
      (takes_word "->" _).bind (hcommands.bind_pure rfl)
    exact ⟨_, rfl, hall.optional⟩

/-- The name of an alternative is read over. -/
theorem takes_name (e : Ending) (h : Closes us) :
    ∃ o, Takes (optional (word "#" >>= fun _ => identifier)) e.nameTokens o us := by
  obtain ⟨commands, label⟩ := e
  cases label with
  | none =>
    have hnone : Refuses (word "#") us :=
      (needs_exactly rfl).refuses (h.avoids.mono nofun (by decide))
    exact ⟨none, hnone.bind.optional⟩
  | some n =>
    have hname : Takes (word "#" >>= fun _ => identifier) ([.sign "#"] ++ [n.lexeme]) _ us :=
      (takes_word "#" _).bind (takes_identifier n us)
    exact ⟨_, hname.optional⟩

/-- **An alternative is read as it is meant**, if its elements are. -/
theorem takes_alternative {b : Reader Expr} {options : Option (List Char)} {items : List Lexeme}
    {es : List Expr} {e : Ending}
    (hitems : Takes (elements b) items es (e.commandTokens ++ (e.nameTokens ++ us)))
    (hfirst : BehindAtom (items ++ (e.commandTokens ++ (e.nameTokens ++ us)))) (h : Closes us) :
    Takes (alternative b) (optionTokens options ++ (items ++ (e.commandTokens ++ e.nameTokens)))
      (.sequence (es ++ e.exprs)) us := by
  obtain ⟨command, hcommand, hcommands⟩ := takes_commands e h
  obtain ⟨name, hname⟩ := takes_name e h
  have hoptions : Takes elementOptions (optionTokens options) ()
      (items ++ (e.commandTokens ++ e.nameTokens) ++ us) := by
    refine takes_elementOptions options fun _ => ?_
    rw [List.append_assoc, List.append_assoc]
    exact hfirst
  have hitems' : Takes (elements b) items es ((e.commandTokens ++ e.nameTokens) ++ us) := by
    rw [List.append_assoc]
    exact hitems
  rw [← hcommand]
  exact hoptions.bind (hitems'.bind (hcommands.bind (hname.bind_pure rfl)))

end GrammarManual.G4
