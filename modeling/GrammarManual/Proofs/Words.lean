import GrammarManual.Proofs.SourceLines
import GrammarManual.Proofs.Walk
import GrammarManual.Proofs.Written

/-!
# Proofs/Words: names that were read are words

Literals and character sets hold almost any character, names do not.

* `IsWord` -- letters, digits and underscores; `Expr.Named` -- an expression that refers to words
  alone, one lemma per constructor;
* `yields_words` -- the readers of the notation give nothing else;
* **`words_of_load`** -- the names that a loaded rule set declares or refers to are words.
-/

namespace GrammarManual

/-! ## 1. Words -/

/-- A name of letters, digits and underscores. -/
def IsWord (name : String) : Prop := ∀ c ∈ name.toList, G4.Scan.isNameChar c = true

/-- Whether an expression refers to words alone. -/
def Expr.Named (e : Expr) : Prop := ∀ name, .reference name ∈ e.leaves → IsWord name

namespace Expr

theorem named_all {es : List Expr} (h : ∀ e ∈ es, e.Named) :
    ∀ name, .reference name ∈ leavesAll es → IsWord name := by
  intro name hname
  rw [leavesAll_eq_flatMap] at hname
  obtain ⟨e, he, hleaf⟩ := List.mem_flatMap.mp hname
  exact h e he name hleaf

theorem named_sequence {items : List Expr} (h : ∀ e ∈ items, e.Named) :
    (Expr.sequence items).Named :=
  named_all h

theorem named_choice {alternatives : List Expr} (h : ∀ e ∈ alternatives, e.Named) :
    (Expr.choice alternatives).Named :=
  named_all h

theorem named_tokenSet {members : List Expr} (h : ∀ e ∈ members, e.Named) :
    (Expr.tokenSet members).Named :=
  named_all h

theorem named_reference {name : String} (h : IsWord name) : (Expr.reference name).Named := by
  intro other hother
  cases List.mem_singleton.mp hother
  exact h

/-- A leaf that is no reference. -/
theorem named_leaf {e : Expr} (hleaf : e.leaves = [e]) (h : ∀ name, e ≠ .reference name) :
    e.Named := by
  intro name hname
  rw [hleaf] at hname
  exact absurd (List.mem_singleton.mp hname).symm (h name)

theorem named_range (first last : String) :
    (Expr.range (.literal first) (.literal last)).Named := by
  intro name hname
  rcases List.mem_append.mp hname with h | h <;> cases List.mem_singleton.mp h

theorem named_withSuffix {e : Expr} (h : e.Named) (suffix : Option String) :
    (G4.withSuffix e suffix).Named := by
  unfold G4.withSuffix
  split
  · exact h
  · exact h

end Expr

namespace G4

open Reader

/-! ## 2. Readers -/

theorem isNameChar_of_name {first : Char → Bool} (hfirst : ∀ c, first c = true → c.isAlpha = true)
    {s text rest : List Char} (h : Scan.name first s = some (text, rest)) :
    ∀ c ∈ text, Scan.isNameChar c = true := by
  unfold Scan.name at h
  split at h
  · cases h
  · rename_i c more
    split at h
    · rename_i hc
      cases h
      refine List.forall_mem_cons.mpr ⟨?_, fun d hd => List.mem_takeWhile_imp hd⟩
      rw [Scan.isNameChar, Char.isAlphanum, hfirst c hc]
      rfl
    · cases h

theorem yields_name {first : Char → Bool} (hfirst : ∀ c, first c = true → c.isAlpha = true) :
    (token (Scan.name first)).Yields IsWord := by
  refine yields_token fun s text rest h => ?_
  unfold IsWord
  rw [String.toList_ofList]
  exact isNameChar_of_name hfirst h

theorem yields_upperName : (token Scan.upperName).Yields IsWord :=
  yields_name isAlpha_of_isUpper

theorem yields_lowerName : (token Scan.lowerName).Yields IsWord :=
  yields_name isAlpha_of_isLower

theorem yields_identifier : identifier.Yields IsWord := yields_upperName.or yields_lowerName

theorem named_ofRange : range.Yields Expr.Named :=
  yields_then fun _ => yields_then fun _ => yields_then fun _ => yields_pure (Expr.named_range _ _)

theorem named_ofLiteral : literal.Yields Expr.Named :=
  yields_then fun _ => yields_then fun _ => yields_pure (Expr.named_leaf rfl (by simp))

theorem named_ofCharset : charset.Yields Expr.Named :=
  yields_then fun _ => yields_pure (Expr.named_leaf rfl (by simp))

theorem named_ofTokenReference : tokenReference.Yields Expr.Named :=
  yields_upperName.bind fun _ h => yields_then fun _ => yields_pure (Expr.named_reference h)

theorem named_ofRuleReference (first : Bool) : (ruleReference first).Yields Expr.Named := by
  refine yields_lowerName.bind fun name h => yields_then fun argument => ?_
  cases argument with
  | false => exact yields_then fun _ => yields_pure (Expr.named_reference h)
  | true =>
    exact yields_then fun _ => yields_then fun _ => yields_pure (Expr.named_reference h)

theorem named_ofSetMember : setMember.Yields Expr.Named := by
  refine yields_firstOf fun p hp => ?_
  simp only [List.mem_cons, List.not_mem_nil, or_false] at hp
  rcases hp with rfl | rfl | rfl | rfl
  · exact named_ofRange
  · exact named_ofLiteral
  · exact named_ofTokenReference
  · exact named_ofCharset

theorem named_ofNegated : negated.Yields Expr.Named := by
  refine yields_then fun _ => Yields.bind (P := Expr.Named) (named_ofSetMember.or ?_)
    fun e he => yields_pure he
  exact yields_then fun _ => (yields_separated "|" named_ofSetMember).bind fun _ h =>
    yields_then fun _ => yields_pure (Expr.named_tokenSet h.2)

theorem named_ofAtom (first : Bool) : (atom first).Yields Expr.Named := by
  refine yields_firstOf fun p hp => ?_
  simp only [List.mem_cons, List.not_mem_nil, or_false] at hp
  rcases hp with rfl | rfl | rfl | rfl | rfl | rfl | rfl
  · exact named_ofRange
  · exact named_ofLiteral
  · exact named_ofTokenReference
  · exact named_ofRuleReference first
  · exact named_ofNegated
  · exact yields_then fun _ => yields_then fun _ => yields_pure (Expr.named_leaf rfl (by simp))
  · exact named_ofCharset

theorem named_ofElement {block : Reader Expr} (hb : block.Yields Expr.Named) (first : Bool) :
    (element block first).Yields Expr.Named := by
  refine yields_firstOf fun p hp => ?_
  simp only [List.mem_cons, List.not_mem_nil, or_false] at hp
  rcases hp with rfl | rfl | rfl | rfl | rfl
  · exact yields_then fun _ => yields_then fun _ => ((named_ofAtom first).or hb).bind
      fun _ he => yields_then fun suffix => yields_pure (Expr.named_withSuffix he suffix)
  · exact (named_ofAtom first).bind fun _ he => yields_then fun suffix =>
      yields_pure (Expr.named_withSuffix he suffix)
  · exact hb.bind fun _ he => yields_then fun suffix =>
      yields_pure (Expr.named_withSuffix he suffix)
  · exact yields_then fun _ => yields_then fun _ => yields_pure (Expr.named_leaf rfl (by simp))
  · exact yields_then fun _ => yields_pure (Expr.named_leaf rfl (by simp))

theorem named_ofElements {block : Reader Expr} (hb : block.Yields Expr.Named) :
    (elements block).Yields fun es => ∀ e ∈ es, e.Named := by
  refine (named_ofElement hb true).optional.bind fun o ho => ?_
  cases o with
  | none => exact yields_pure fun e he => absurd he List.not_mem_nil
  | some e =>
    exact (named_ofElement hb false).many.bind fun more hmore =>
      yields_pure (List.forall_mem_cons.mpr ⟨ho e rfl, hmore⟩)

theorem named_ofAlternatives {block : Reader Expr} (hb : block.Yields Expr.Named) :
    (alternatives block).Yields Expr.Named := by
  have hcommands : lexerCommands.Yields Expr.Named :=
    yields_then fun _ => yields_then fun _ => yields_pure (Expr.named_leaf rfl (by simp))
  have halternative : (alternative block).Yields Expr.Named :=
    yields_then fun _ => (named_ofElements hb).bind fun es hes =>
      hcommands.optional.bind fun commands hc => yields_then fun _ =>
        yields_pure (Expr.named_sequence (List.forall_mem_append.mpr
          ⟨hes, fun e he => hc e (Option.mem_toList.mp he)⟩))
  exact (yields_separated "|" halternative).bind fun _ h => yields_pure (Expr.named_choice h.2)

theorem named_ofBlock (depth : Nat) : (block depth).Yields Expr.Named := by
  induction depth with
  | zero => exact yields_fail
  | succ depth ih =>
    exact yields_then fun _ => yields_then fun _ => (named_ofAlternatives ih).bind
      fun e he => yields_then fun _ => yields_pure he

/-- **A declaration has a word for its name and refers to words alone.** -/
theorem yields_words (depth : Nat) :
    (declaration depth).Yields fun d => IsWord d.name ∧ d.body.Named := by
  have hname : declarationHead.Yields fun head => IsWord head.1 :=
    yields_then fun _ => yields_identifier.bind fun _ h => yields_then fun _ =>
      yields_then fun _ => yields_pure h
  have hhead : Reader.Yields (Reader.or
      (do let _ ← word "fragment"; return (true, ← declarationHead))
      (do return (false, ← declarationHead))) fun (_, head) => IsWord head.1 :=
    Yields.or (yields_then fun _ => hname.bind fun _ h => yields_pure h)
      (hname.bind fun _ h => yields_pure h)
  refine hhead.bind fun (fragment, name, position) h => ?_
  exact (named_ofAlternatives (named_ofBlock depth)).bind fun _ hbody => yields_then fun _ =>
    yields_then fun _ => yields_pure ⟨h, hbody⟩

theorem yields_file_words (depth : Nat) :
    (file depth).Yields fun f => ∀ d ∈ f.declarations, IsWord d.name ∧ d.body.Named := by
  have hpart : Reader.Yields (Reader.or
      (do return some (← declaration depth))
      (do modeSpec; return none)) fun o => ∀ d, o = some d → IsWord d.name ∧ d.body.Named := by
    refine Yields.or ((yields_words depth).bind fun d hd => yields_pure ?_)
      (yields_then fun _ => yields_pure nofun)
    rintro b ⟨rfl⟩
    exact hd
  refine yields_then fun header => yields_then fun _ => hpart.many.bind fun parts hparts =>
    yields_then fun _ => yields_pure fun d hd => ?_
  obtain ⟨o, ho, hod⟩ := List.mem_filterMap.mp hd
  exact hparts o ho d hod

end G4

/-! ## 3. Loaded rules -/

theorem words_of_read {text : List Char} {g : Grammar} (h : Grammar.read text = .ok g) :
    ∀ r ∈ g.rules, IsWord r.name ∧ r.body.Named := by
  unfold Grammar.read at h
  dsimp only at h
  split at h
  · rename_i content c hread
    cases h
    intro r hr
    obtain ⟨d, hd, rfl⟩ := List.mem_map.mp hr
    exact G4.yields_file_words text.length _ content c hread d hd
  · cases h

/-- **The rules of a loaded rule set have words for names and refer to words alone.** -/
theorem words_of_load {files : FileTree} {parserPath : Path} {lexerPath : Option Path}
    {g : RuleSet} (h : (RuleSet.load files parserPath lexerPath).result = .ok g) (mode : Mode) :
    ∀ r ∈ (g.table mode).rules, IsWord r.name ∧ r.body.Named := by
  intro r hr
  obtain ⟨f, hf, -, hrules⟩ := provides_of_load h mode
  obtain ⟨text, -, hgrammar, -⟩ := Grammar.ofFile_ok hf
  exact words_of_read hgrammar r (hrules r hr)

end GrammarManual
