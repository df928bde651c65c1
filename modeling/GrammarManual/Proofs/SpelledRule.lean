import GrammarManual.Proofs.Arguments
import GrammarManual.Proofs.Declarations

/-!
# Proofs/SpelledRule: a rule is read with the body that its tokens spell

* `spelled_of_gaps` -- tokens with a run of blanks and comments between each two of them are
  spelled, whatever they are;
* **`read_spelled_rule`** -- a text that spells a rule `r` with a clear body is read as this rule
  with this body;
* **`read_spelled_rule_iff`** -- and with no other, unless a set stands where it reads like an
  argument.
-/

namespace GrammarManual.G4

open Reader

/-! ## 1. Spelling with gaps -/

/-- A text of tokens, each with what stands before it. -/
def textOfTokens (parts : List (List Char × Lexeme)) : List Char :=
  parts.flatMap fun (gap, t) => gap ++ t.text

theorem apart_tail {tail : List Char} (h : IsGap tail) (t : Lexeme) : t.Apart tail := by
  cases tail with
  | nil => exact nofun
  | cons c tail =>
    have happart := Lexeme.apart_of_gap h (List.cons_ne_nil c tail) t []
    rwa [List.append_nil] at happart

/-- Tokens between which something stands are told from each other. -/
theorem spelled_of_gaps {parts : List (List Char × Lexeme)} {tail : List Char}
    (hparts : ∀ x ∈ parts, IsGap x.1 ∧ x.2.Valid) (hbetween : ∀ x ∈ parts.tail, x.1 ≠ [])
    (htail : IsGap tail) : Spelled (parts.map Prod.snd) (textOfTokens parts ++ tail) := by
  induction parts with
  | nil => exact ⟨tail, .nil tail, htail⟩
  | cons x parts ih =>
    obtain ⟨gap, t⟩ := x
    obtain ⟨hgap, hvalid⟩ := hparts (gap, t) List.mem_cons_self
    have hmore := ih (fun y hy => hparts y (List.mem_cons_of_mem _ hy)) fun y hy =>
      hbetween y (List.mem_of_mem_tail hy)
    have hapart : t.Apart (textOfTokens parts ++ tail) := by
      cases parts with
      | nil => exact apart_tail htail t
      | cons y parts =>
        obtain ⟨gap', u⟩ := y
        have hgap' := (hparts (gap', u) (List.mem_cons_of_mem _ List.mem_cons_self)).1
        have hne := hbetween (gap', u) List.mem_cons_self
        rw [textOfTokens, List.flatMap_cons, List.append_assoc, List.append_assoc]
        exact Lexeme.apart_of_gap hgap' hne t _
    have htext : textOfTokens ((gap, t) :: parts) ++ tail =
        gap ++ (t.text ++ (textOfTokens parts ++ tail)) := by
      simp [textOfTokens]
    rw [htext]
    exact (Steps.cons hgap hvalid hapart (.nil _)).spelled hmore

/-! ## 2. One rule -/

/-- The tokens of a rule. -/
def ruleTokens (b : Body) : List Lexeme :=
  .name 'r' [] :: .sign ":" :: (b.tokens ++ [.sign ";"])

/-- **A rule is read with the body that its tokens spell**: nothing is lost or grouped anew, every
    suffix stands where it was written, and labels, options, arguments, names of alternatives and
    comments leave no trace. -/
theorem read_spelled_rule (b : Body) (hclear : b.Clear) (text : List Char)
    (hspelled : Spelled (ruleTokens b) text) :
    ∃ line, Grammar.read text =
      .ok { rules := [{ name := "r", body := b.expr, line, fragment := false }] } := by
  obtain ⟨tail, hsteps, htail⟩ := hspelled
  have hlength := hsteps.length
  rw [ruleTokens, List.length_cons, List.length_cons, List.length_append] at hlength
  have htailLength : tail.length ≤ text.length := by omega
  have hdepth : b.tokens.length ≤ text.length := by omega
  have hone : 1 ≤ text.length := by omega
  cases hsteps with
  | @cons gap rest _ _ _ hgap hvalid hapart hmore =>
    let name : AnyName := ⟨'r', [], rfl⟩
    have hfollows : Follows name (.sign ":" :: (b.tokens ++ [.sign ";"])) rest tail :=
      ⟨hvalid, hapart, hmore⟩
    have hbetween : BetweenDeclarations (gap ++ (name.lexeme.text ++ rest)) := by
      cases hmore with
      | cons hgap' _ _ _ => exact .inl ⟨gap, ['r'], _, _, hgap, by decide, hgap', rfl⟩
    have hbody : Takes (alternatives (block (gap ++ (name.lexeme.text ++ rest)).length)) b.tokens
        b.expr [.sign ";"] := by
      refine b.takes hclear ?_ hdepth
      rintro _ ⟨⟩
      exact .inr rfl
    -- `r` is no keyword with a name behind it
    have hname : ¬ name.Merges := by
      rintro ⟨m, hm⟩
      have hfirst : 'r' = 'f' := (List.cons.inj hm).1
      exact absurd hfirst (by decide)
    have hnone : Fails _ exceptionHandler tail :=
      BetweenDeclarations.no_exceptionHandler (.inr (.inr htail)) htailLength
    have hdeclaration := reads_declaration hgap hfollows ⟨tail, .nil tail, htail⟩ hbody hnone
      (Nat.le_refl _) hname
    have hparts := ReadsParts.cons hdeclaration (readsParts_nil htail htailLength)
    have hfile := reads_file hbetween hparts hone htail (Nat.le_refl _) htailLength
    exact ⟨_, read_of_reads_file hfile⟩

/-- **A rule is read with its body if and only if the body is clear**, unless a set stands right
    behind a reference: if an argument is not clear, a set is read that was not meant. -/
theorem read_spelled_rule_iff (b : Body) (htold : b.Told) (text : List Char)
    (hspelled : Spelled (ruleTokens b) text) :
    (∃ line, Grammar.read text =
      .ok { rules := [{ name := "r", body := b.expr, line, fragment := false }] }) ↔ b.Clear := by
  constructor
  · rintro ⟨line, hread⟩
    obtain ⟨b', htokens, hclear, hexprs⟩ := b.exists_clear htold
    have hspelled' : Spelled (ruleTokens b') text := by
      rw [ruleTokens, htokens]
      exact hspelled
    obtain ⟨line', hread'⟩ := read_spelled_rule b' hclear text hspelled'
    have hrules := congrArg Grammar.rules (Except.ok.inj (hread'.symm.trans hread))
    have hbody := congrArg Rule.body (List.cons.inj hrules).1
    injection hbody with hsame
    exact hexprs hsame
  · intro hclear
    exact read_spelled_rule b hclear text hspelled

/-- A reference with an argument, and a group with a lazy suffix. -/
def argumentAndGroup : Body :=
  .last none
    (.cons (.atom none (.rule ⟨'x', [], rfl⟩ (some ['z']) none) none)
      (.cons
        (.group none
          (.more none (.cons (.atom none (.member (.literal ['a'] none)) none) .nil) ⟨none, none⟩
            (.last none (.cons (.atom none (.wildcard none) none) .nil) ⟨none, none⟩))
          (some ⟨.zeroOrMore, false⟩))
        .nil))
    ⟨none, none⟩

theorem read_spelled_rule_iff_group :
    ∃ line, Grammar.read "r : x [z] ( 'a' /*|*/ | . ) *? ;".toList =
      .ok { rules := [{
        name := "r"
        body := .choice [.sequence [
          .reference "x",
          .repeated (.choice [.sequence [.literal "'a'"], .sequence [.wildcard]]) .zeroOrMore
            false]]
        line, fragment := false }] } := by
  have hspace : IsGap [' '] := .blank rfl .nil
  have hinner : ¬ ['*', '/'] <:+: ['|'] := by decide
  have hcomment : IsGap " /*|*/ ".toList := .blank rfl (.block hinner hspace)
  let parts : List (List Char × Lexeme) :=
    [([], .name 'r' []), ([' '], .sign ":"), ([' '], .name 'x' []), ([' '], .brackets ['z']),
      ([' '], .sign "("), ([' '], .literal ['a']), (" /*|*/ ".toList, .sign "|"),
      ([' '], .wildcard), ([' '], .sign ")"), ([' '], .suffix .zeroOrMore false),
      ([' '], .sign ";")]
  have hparts : ∀ x ∈ parts, IsGap x.1 ∧ x.2.Valid := by
    intro x hx
    simp only [parts, List.mem_cons, List.not_mem_nil, or_false] at hx
    have hsign : ∀ w ∈ Lexeme.signs, (Lexeme.sign w).Valid := fun _ hw => hw
    rcases hx with rfl | rfl | rfl | rfl | rfl | rfl | rfl | rfl | rfl | rfl | rfl
    · exact ⟨.nil, by decide, List.forall_mem_nil _⟩
    · exact ⟨hspace, hsign _ (by decide)⟩
    · exact ⟨hspace, by decide, List.forall_mem_nil _⟩
    · exact ⟨hspace, .plain (by decide) (by decide) rfl .nil⟩
    · exact ⟨hspace, hsign _ (by decide)⟩
    · exact ⟨hspace, .plain (by decide) (by decide) rfl .nil⟩
    · exact ⟨hcomment, hsign _ (by decide)⟩
    · exact ⟨hspace, trivial⟩
    · exact ⟨hspace, hsign _ (by decide)⟩
    · exact ⟨hspace, trivial⟩
    · exact ⟨hspace, hsign _ (by decide)⟩
  have hspelled : Spelled (parts.map Prod.snd) (textOfTokens parts ++ []) :=
    spelled_of_gaps hparts (by decide) .nil
  have hclear : argumentAndGroup.Clear :=
    ⟨.inl rfl, ⟨⟨trivial, trivial⟩, trivial, trivial⟩, trivial⟩
  have htold : argumentAndGroup.Told := ⟨trivial, ⟨⟨trivial, trivial⟩, trivial, trivial⟩, trivial⟩
  exact (read_spelled_rule_iff argumentAndGroup htold _ hspelled).mpr hclear

/-- Brackets behind a reference that does not open its alternative are read as a set, although they
    may be meant as its argument. -/
theorem argument_read_as_charset :
    ∃ line, Grammar.read "r : x y [z] ;".toList =
      .ok { rules := [{
        name := "r"
        body := .choice [.sequence [.reference "x", .reference "y", .charset "z"]]
        line, fragment := false }] } := by
  have hspace : IsGap [' '] := .blank rfl .nil
  have hinline : Enclosed ']' Scan.isInline ['z'] := .plain (by decide) (by decide) rfl .nil
  have hall : (Lexeme.brackets ['z']).Valid := .plain (by decide) (by decide) rfl .nil
  let reference (c : Char) (h : c.isLower = true) : Item :=
    .atom none (.rule ⟨c, [], h⟩ none none) none
  let body : Body := .last none
    (.cons (reference 'x' rfl) (.cons (reference 'y' rfl)
      (.cons (.atom none (.member (.charset ['z'] hinline)) none) .nil))) ⟨none, none⟩
  let parts : List (List Char × Lexeme) :=
    [([], .name 'r' []), ([' '], .sign ":"), ([' '], .name 'x' []), ([' '], .name 'y' []),
      ([' '], .brackets ['z']), ([' '], .sign ";")]
  have hparts : ∀ x ∈ parts, IsGap x.1 ∧ x.2.Valid := by
    intro x hx
    simp only [parts, List.mem_cons, List.not_mem_nil, or_false] at hx
    have hsign : ∀ w ∈ Lexeme.signs, (Lexeme.sign w).Valid := fun _ hw => hw
    rcases hx with rfl | rfl | rfl | rfl | rfl | rfl
    · exact ⟨.nil, by decide, List.forall_mem_nil _⟩
    · exact ⟨hspace, hsign _ (by decide)⟩
    · exact ⟨hspace, by decide, List.forall_mem_nil _⟩
    · exact ⟨hspace, by decide, List.forall_mem_nil _⟩
    · exact ⟨hspace, hall⟩
    · exact ⟨hspace, hsign _ (by decide)⟩
  have hspelled : Spelled (parts.map Prod.snd) (textOfTokens parts ++ []) :=
    spelled_of_gaps hparts (by decide) .nil
  have hclear : body.Clear := by
    refine ⟨.inr (.inr ?_), .inr (.inr ?_), trivial, trivial⟩
    · intro inner hhead
      cases hhead
    · intro inner hhead
      cases hhead
      exact ⟨rfl, hinline, behind_nil⟩
  exact read_spelled_rule body hclear _ hspelled

end GrammarManual.G4
