import GrammarManual.G4.Grammar

/-!
# Proofs/Written: the shape of rule bodies that were read

* `Expr.Written` -- the expressions that the notation has words for, by the part they play;
* `Reader.Yields` -- all that a reader gives has a property; one lemma per way to build a reader;
* **`written_of_read`** -- every rule of a grammar that was read has a written body.
-/

namespace GrammarManual

/-! ## 1. Written expressions -/

/-- A text between single quotes. -/
def IsQuoted (text : String) : Prop := ∃ inner : List Char, text.toList = '\'' :: (inner ++ ['\''])

/-- The parts an expression can play in a rule body. -/
inductive Part where
  /-- A group of alternatives. -/
  | block
  | alternative
  /-- An item of an alternative. -/
  | element
  /-- What can stand before a suffix. -/
  | operand
  /-- What can stand in a set. -/
  | member
  deriving DecidableEq, Repr

/-- The expressions that the notation has words for. -/
inductive Expr.Written : Part → Expr → Prop where
  | block {alternatives : List Expr} (hne : alternatives ≠ [])
      (h : ∀ a ∈ alternatives, Written .alternative a) : Written .block (.choice alternatives)
  | alternative {items : List Expr} (h : ∀ e ∈ items, Written .element e) :
      Written .alternative (.sequence items)
  | predicate (code : String) : Written .element (.predicate code)
  | action (code : String) : Written .element (.action code)
  | plain {e : Expr} (h : Written .operand e) : Written .element e
  | repeated {e : Expr} (times : Repetition) (greedy : Bool) (h : Written .operand e) :
      Written .element (.repeated e times greedy)
  | group {e : Expr} (h : Written .block e) : Written .operand e
  | wildcard : Written .operand .wildcard
  | single {e : Expr} (h : Written .member e) : Written .operand e
  | negated {e : Expr} (h : Written .member e) : Written .operand (.negated e)
  | negatedSet {members : List Expr} (hne : members ≠ [])
      (h : ∀ e ∈ members, Written .member e) : Written .operand (.negated (.tokenSet members))
  | reference (name : String) : Written .member (.reference name)
  | literal {text : String} (h : IsQuoted text) : Written .member (.literal text)
  | charset (text : String) : Written .member (.charset text)
  | range {first last : String} (hf : IsQuoted first) (hl : IsQuoted last) :
      Written .member (.range (.literal first) (.literal last))

namespace G4

/-! ## 2. What readers yield -/

namespace Reader

variable {α β : Type} {P Q : α → Prop}

/-- Whatever a reader gives has a property. -/
def Yields (p : Reader α) (P : α → Prop) : Prop :=
  ∀ c a c', (p c).result = some (a, c') → P a

theorem yields_true (p : Reader α) : p.Yields fun _ => True := fun _ _ _ _ => trivial

theorem Yields.imp {p : Reader α} (h : p.Yields P) (hPQ : ∀ a, P a → Q a) : p.Yields Q :=
  fun c a c' hr => hPQ a (h c a c' hr)

theorem yields_pure {a : α} (h : P a) : (Pure.pure a : Reader α).Yields P := by
  intro c b c' hr
  have hr' : some (a, c) = some (b, c') := hr
  cases hr'
  exact h

theorem Yields.bind {p : Reader α} {f : α → Reader β} {R : β → Prop} (hp : p.Yields P)
    (hf : ∀ a, P a → (f a).Yields R) : (p >>= f).Yields R := by
  intro c b c' hr
  have hr' : (Reader.bind p f c).result = some (b, c') := hr
  unfold Reader.bind at hr'
  rcases hpc : p c with ⟨result, n⟩
  rw [hpc] at hr'
  cases result with
  | none => cases hr'
  | some x =>
    obtain ⟨a, c₁⟩ := x
    exact hf a (hp c a c₁ (by rw [hpc])) c₁ b c' hr'

/-- What is read first may be anything. -/
theorem yields_then {p : Reader α} {f : α → Reader β} {R : β → Prop}
    (hf : ∀ a, (f a).Yields R) : (p >>= f).Yields R :=
  (yields_true p).bind fun a _ => hf a

theorem Yields.or {p q : Reader α} (hp : p.Yields P) (hq : q.Yields P) : (p.or q).Yields P := by
  intro c a c' hr
  unfold Reader.or at hr
  rcases hpc : p c with ⟨result, n⟩
  rw [hpc] at hr
  cases result with
  | none => exact hq c a c' hr
  | some x =>
    cases hr
    exact hp c a c' (by rw [hpc])

theorem yields_fail : (fail : Reader α).Yields P := fun _ _ _ hr => nomatch hr

theorem yields_firstOf {ps : List (Reader α)} (h : ∀ p ∈ ps, p.Yields P) :
    (firstOf ps).Yields P := by
  induction ps with
  | nil => exact yields_fail
  | cons p ps ih =>
    have hp := h p List.mem_cons_self
    have hps := ih fun q hq => h q (List.mem_cons_of_mem _ hq)
    cases ps with
    | nil => exact hp
    | cons q qs => exact hp.or hps

theorem Yields.optional {p : Reader α} (h : p.Yields P) :
    p.optional.Yields fun o => ∀ a, o = some a → P a := by
  refine Yields.or (h.bind fun a ha => yields_pure ?_) (yields_pure fun a ha => nomatch ha)
  rintro b ⟨rfl⟩
  exact ha

theorem Yields.upTo {p : Reader α} (h : p.Yields P) (n : Nat) :
    (upTo p n).Yields fun as => ∀ a ∈ as, P a := by
  induction n with
  | zero => exact yields_pure fun a ha => absurd ha List.not_mem_nil
  | succ n ih =>
    refine h.optional.bind fun o ho => ?_
    cases o with
    | none => exact yields_pure fun a ha => absurd ha List.not_mem_nil
    | some a =>
      refine ih.bind fun as has => yields_pure fun b hb => ?_
      rcases List.mem_cons.mp hb with rfl | hb
      · exact ho b rfl
      · exact has b hb

theorem Yields.many {p : Reader α} (h : p.Yields P) :
    (many p).Yields fun as => ∀ a ∈ as, P a :=
  fun c as c' hr => h.upTo _ c as c' hr

theorem yields_token {scan : List Char → Option (List Char × List Char)} {R : String → Prop}
    (h : ∀ s text rest, scan s = some (text, rest) → R (String.ofList text)) :
    (token scan).Yields R := by
  intro c a c' hr
  unfold token at hr
  dsimp only at hr
  cases hs : scan (skipBlank c).rest with
  | none =>
    rw [hs] at hr
    cases hr
  | some x =>
    obtain ⟨text, rest⟩ := x
    rw [hs] at hr
    cases hr
    exact h _ _ _ hs

end Reader

open Reader

variable {α : Type} {P : α → Prop}

theorem yields_separated {p : Reader α} (separator : String) (h : p.Yields P) :
    (separated separator p).Yields fun as => as ≠ [] ∧ ∀ a ∈ as, P a := by
  refine h.bind fun first hfirst => (yields_then fun _ => h).many.bind fun more hmore =>
    yields_pure ⟨List.cons_ne_nil _ _, fun a ha => ?_⟩
  rcases List.mem_cons.mp ha with rfl | ha
  · exact hfirst
  · exact hmore a ha

/-! ## 3. Elements -/

/-- Enclosed text ends with the closing character. -/
theorem exists_close_of_upToClose {close : Char} {allowed : Char → Bool} {s text rest : List Char}
    (h : Scan.upToClose close allowed s = some (text, rest)) :
    ∃ inner, text = inner ++ [close] := by
  fun_induction Scan.upToClose close allowed s generalizing text rest with
  | case1 => cases h
  | case2 => cases h
  | case3 c more hc ih =>
    obtain ⟨⟨text', rest'⟩, hm, h⟩ := Option.map_eq_some_iff.mp h
    cases h
    obtain ⟨inner, rfl⟩ := ih hm
    exact ⟨'\\' :: c :: inner, rfl⟩
  | case4 =>
    cases h
    exact ⟨[], rfl⟩
  | case5 c more _ _ _ ih =>
    obtain ⟨⟨text', rest'⟩, hm, h⟩ := Option.map_eq_some_iff.mp h
    cases h
    obtain ⟨inner, rfl⟩ := ih hm
    exact ⟨c :: inner, rfl⟩
  | case6 => cases h

theorem yields_literalToken : (token Scan.literal).Yields IsQuoted := by
  refine yields_token fun s text rest h => ?_
  unfold Scan.literal Scan.enclosed at h
  split at h
  · cases h
  · split at h
    · rename_i hc
      subst hc
      obtain ⟨⟨text', rest'⟩, hm, h⟩ := Option.map_eq_some_iff.mp h
      cases h
      obtain ⟨inner, rfl⟩ := exists_close_of_upToClose hm
      exact ⟨inner, String.toList_ofList⟩
    · cases h

theorem yields_range : range.Yields (Expr.Written .member) :=
  yields_literalToken.bind fun _ hf => yields_then fun _ =>
    yields_literalToken.bind fun _ hl => yields_pure (.range hf hl)

theorem yields_literal : literal.Yields (Expr.Written .member) :=
  yields_literalToken.bind fun _ h => yields_then fun _ => yields_pure (.literal h)

theorem yields_tokenReference : tokenReference.Yields (Expr.Written .member) :=
  yields_then fun _ => yields_then fun _ => yields_pure (.reference _)

theorem yields_charset : charset.Yields (Expr.Written .member) :=
  yields_then fun _ => yields_pure (.charset _)

theorem yields_ruleReference (first : Bool) :
    (ruleReference first).Yields (Expr.Written .member) := by
  refine yields_then fun name => yields_then fun argument => ?_
  cases argument with
  | false => exact yields_then fun _ => yields_pure (.reference name)
  | true => exact yields_then fun _ => yields_then fun _ => yields_pure (.reference name)

theorem yields_setMember : setMember.Yields (Expr.Written .member) := by
  refine yields_firstOf fun p hp => ?_
  simp only [List.mem_cons, List.not_mem_nil, or_false] at hp
  rcases hp with rfl | rfl | rfl | rfl
  · exact yields_range
  · exact yields_literal
  · exact yields_tokenReference
  · exact yields_charset

theorem yields_negated : negated.Yields (Expr.Written .operand) := by
  refine yields_then fun _ => Yields.bind (P := fun e => Expr.Written .operand (.negated e))
    (Yields.or (yields_setMember.imp fun _ => .negated) ?_) fun e he => yields_pure he
  exact yields_then fun _ => (yields_separated "|" yields_setMember).bind fun _ h =>
    yields_then fun _ => yields_pure (.negatedSet h.1 h.2)

theorem yields_wildcard : wildcard.Yields (Expr.Written .operand) :=
  yields_then fun _ => yields_then fun _ => yields_pure .wildcard

theorem yields_atom (first : Bool) : (atom first).Yields (Expr.Written .operand) := by
  refine yields_firstOf fun p hp => ?_
  simp only [List.mem_cons, List.not_mem_nil, or_false] at hp
  rcases hp with rfl | rfl | rfl | rfl | rfl | rfl | rfl
  · exact yields_range.imp fun _ => .single
  · exact yields_literal.imp fun _ => .single
  · exact yields_tokenReference.imp fun _ => .single
  · exact (yields_ruleReference first).imp fun _ => .single
  · exact yields_negated
  · exact yields_wildcard
  · exact yields_charset.imp fun _ => .single

theorem written_withSuffix {e : Expr} (h : Expr.Written .operand e) (suffix : Option String) :
    Expr.Written .element (withSuffix e suffix) := by
  unfold withSuffix
  split
  · exact .repeated _ _ h
  · exact .plain h

theorem yields_element {block : Reader Expr} (hb : block.Yields (Expr.Written .block))
    (first : Bool) : (element block first).Yields (Expr.Written .element) := by
  have hblock : block.Yields (Expr.Written .operand) := hb.imp fun _ => .group
  refine yields_firstOf fun p hp => ?_
  simp only [List.mem_cons, List.not_mem_nil, or_false] at hp
  rcases hp with rfl | rfl | rfl | rfl | rfl
  · exact yields_then fun _ => yields_then fun _ => ((yields_atom first).or hblock).bind
      fun _ he => yields_then fun s => yields_pure (written_withSuffix he s)
  · exact (yields_atom first).bind fun _ he => yields_then fun s =>
      yields_pure (written_withSuffix he s)
  · exact hblock.bind fun _ he => yields_then fun s => yields_pure (written_withSuffix he s)
  · exact yields_then fun code => yields_then fun _ => yields_pure (.predicate code)
  · exact yields_then fun code => yields_pure (.action code)

/-! ## 4. Bodies -/

theorem yields_elements {block : Reader Expr} (hb : block.Yields (Expr.Written .block)) :
    (elements block).Yields fun es => ∀ e ∈ es, Expr.Written .element e := by
  refine (yields_element hb true).optional.bind fun o ho => ?_
  cases o with
  | none => exact yields_pure fun e he => absurd he List.not_mem_nil
  | some e =>
    refine (yields_element hb false).many.bind fun more hmore => yields_pure fun x hx => ?_
    rcases List.mem_cons.mp hx with rfl | hx
    · exact ho x rfl
    · exact hmore x hx

theorem yields_alternative {block : Reader Expr} (hb : block.Yields (Expr.Written .block)) :
    (alternative block).Yields (Expr.Written .alternative) := by
  have hcommands : lexerCommands.Yields (Expr.Written .element) :=
    yields_then fun _ => yields_then fun _ => yields_pure (.action _)
  refine yields_then fun _ => (yields_elements hb).bind fun es hes =>
    hcommands.optional.bind fun commands hc => yields_then fun _ =>
      yields_pure (.alternative fun e he => ?_)
  rcases List.mem_append.mp he with he | he
  · exact hes e he
  · exact hc e (Option.mem_toList.mp he)

theorem yields_alternatives {block : Reader Expr} (hb : block.Yields (Expr.Written .block)) :
    (alternatives block).Yields (Expr.Written .block) :=
  (yields_separated "|" (yields_alternative hb)).bind fun _ h => yields_pure (.block h.1 h.2)

theorem yields_block (depth : Nat) : (block depth).Yields (Expr.Written .block) := by
  induction depth with
  | zero => exact yields_fail
  | succ depth ih =>
    exact yields_then fun _ => yields_then fun _ => (yields_alternatives ih).bind
      fun e he => yields_then fun _ => yields_pure he

theorem yields_declaration (depth : Nat) :
    (declaration depth).Yields fun d => Expr.Written .block d.body := by
  refine yields_then fun head => ?_
  obtain ⟨fragment, name, position⟩ := head
  exact (yields_alternatives (yields_block depth)).bind fun _ hbody => yields_then fun _ =>
    yields_then fun _ => yields_pure hbody

theorem yields_file (depth : Nat) :
    (file depth).Yields fun f => ∀ d ∈ f.declarations, Expr.Written .block d.body := by
  have hpart : Reader.Yields (Reader.or
      (do return some (← declaration depth))
      (do modeSpec; return none)) fun o => ∀ d, o = some d → Expr.Written .block d.body := by
    refine Yields.or ((yields_declaration depth).bind fun d hd => yields_pure ?_)
      (yields_then fun _ => yields_pure fun d hd => nomatch hd)
    rintro b ⟨rfl⟩
    exact hd
  refine yields_then fun header => yields_then fun _ => hpart.many.bind fun parts hparts =>
    yields_then fun _ => yields_pure fun d hd => ?_
  obtain ⟨o, ho, hod⟩ := List.mem_filterMap.mp hd
  exact hparts o ho d hod

end G4

/-- **The rules of a grammar that was read have written bodies.** -/
theorem written_of_read {text : List Char} {g : Grammar} (h : Grammar.read text = .ok g) :
    ∀ r ∈ g.rules, r.body.Written .block := by
  unfold Grammar.read at h
  dsimp only at h
  split at h
  · rename_i content c hread
    cases h
    intro r hr
    obtain ⟨d, hd, rfl⟩ := List.mem_map.mp hr
    exact G4.yields_file text.length _ content c hread d hd
  · cases h

end GrammarManual
