import GrammarManual.Proofs.Groups

/-!
# Proofs/Arguments: arguments that are read as sets

An argument that stands on one line, behind a reference that does not open its alternative, with
neither options nor a suffix, is spelled like a set behind a reference without argument.

* `Body.Told` -- no set stands where it could be such an argument;
* **`Body.exists_clear`** -- if no set does, every body is spelled like a clear one, which says the
  same only if the body is clear itself. Every argument that is not clear is one element more.
-/

namespace GrammarManual.G4

/-! ## 1. Sets behind references -/

/-- No set stands right behind a reference without argument, options and suffix. -/
def Atom.Told (suffix : Option Suffix) (after : List Lexeme) : Atom → Prop
  | rule _ none options =>
    options ≠ none ∨ suffix ≠ none ∨ ∀ inner, after.head? ≠ some (.brackets inner)
  | _ => True

mutual

def Item.Told : Item → List Lexeme → Prop
  | .atom _ a suffix, after => a.Told suffix after
  | .group _ body _, _ => body.Told
  | .predicate _, _ | .action _, _ => True

def Items.Told : Items → Prop
  | .nil => True
  | .cons item more => item.Told more.tokens ∧ more.Told

/-- No set of a body stands right behind such a reference. -/
def Body.Told : Body → Prop
  | .last _ items _ => items.Told
  | .more _ items _ rest => items.Told ∧ rest.Told

end

/-- An atom is clear, or it is a reference whose argument is read as a set. -/
theorem Atom.Told.clear_or {a : Atom} {first : Bool} {suffix : Option Suffix}
    {after : List Lexeme} (h : a.Told suffix after) :
    a.Clear first suffix after ∨ first = false ∧ suffix = none ∧
      ∃ name inner, Enclosed ']' Scan.isInline inner ∧ a = .rule name (some inner) none := by
  by_cases hclear : a.Clear first suffix after
  · exact .inl hclear
  · refine .inr ?_
    cases a with
    | rule name argument options =>
      cases argument with
      | none =>
        refine absurd ?_ hclear
        exact h.imp_right fun h => h.imp_right fun h inner hhead => absurd hhead (h inner)
      | some inner =>
        simp only [Atom.Clear, not_or, Classical.not_not, Bool.not_eq_true, ne_eq] at hclear
        obtain ⟨hfirst, inline, rfl, hsuffix⟩ := hclear
        exact ⟨hfirst, hsuffix, name, inner, inline, rfl⟩
    | _ => exact absurd trivial hclear

/-! ## 2. What is read instead -/

theorem Items.behind_tokens (is : Items) : Behind is.tokens := by
  have hends : EndsElements [] := by
    intro t ht
    cases ht
  have hbehind := is.behind hends
  rwa [List.append_nil] at hbehind

/-- If an element is an atom, it is clear or a reference whose argument is read as a set. -/
theorem Item.Told.clear_or {i : Item} {first : Bool} {after : List Lexeme} (h : i.Told after) :
    (∀ label a suffix, i = .atom label a suffix → a.Clear first suffix after) ∨
      first = false ∧ ∃ label name inner, Enclosed ']' Scan.isInline inner ∧
        i = .atom label (.rule name (some inner) none) none := by
  cases i with
  | atom label a suffix =>
    have hatom : a.Told suffix after := h
    rcases hatom.clear_or with hclear | ⟨hfirst, rfl, name, inner, inline, rfl⟩
    · refine .inl fun label' a' suffix' hitem => ?_
      cases hitem
      exact hclear
    · exact .inr ⟨hfirst, label, name, inner, inline, rfl⟩
  | _ =>
    refine .inl fun label' a' suffix' hitem => ?_
    cases hitem

theorem suffixed_injective {suffix : Option Suffix} {e e' : Expr}
    (h : suffixed suffix e = suffixed suffix e') : e = e' := by
  cases suffix with
  | none => exact h
  | some s =>
    injection h

mutual

/-- An element that is read as one is spelled like a clear one. -/
theorem Item.exists_clear : (i : Item) → ∀ {first : Bool} {after : List Lexeme},
    i.Told after → (∀ label a suffix, i = .atom label a suffix → a.Clear first suffix after) →
    ∃ i' : Item, i'.tokens = i.tokens ∧ i'.Clear first after ∧
      (i'.expr = i.expr → i.Clear first after)
  | .atom label a suffix, _, _, _, hatom =>
    have hclear := hatom label a suffix rfl
    ⟨.atom label a suffix, rfl, hclear, fun _ => hclear⟩
  | .group label body suffix, _, _, htold, _ => by
    obtain ⟨body', htokens, hclear, hexprs⟩ := body.exists_clear htold
    refine ⟨.group label body' suffix, ?_, hclear, fun hexpr => hexprs ?_⟩
    · rw [Item.tokens, Item.tokens, htokens]
    · rw [Item.expr, Item.expr] at hexpr
      injection suffixed_injective hexpr
  | .predicate inner, _, _, _, _ => ⟨.predicate inner, rfl, trivial, fun _ => trivial⟩
  | .action inner, _, _, _, _ => ⟨.action inner, rfl, trivial, fun _ => trivial⟩

/-- Elements are spelled like clear ones, of which there are no fewer. -/
theorem Items.exists_clear : (is : Items) → ∀ {first : Bool}, is.Told →
    ∃ is' : Items, is'.tokens = is.tokens ∧ is'.Clear first ∧
      is.exprs.length ≤ is'.exprs.length ∧ (is'.exprs = is.exprs → is.Clear first)
  | .nil, _, _ => ⟨.nil, rfl, trivial, Nat.le_refl 0, fun _ => trivial⟩
  | .cons item more, first, htold => by
    obtain ⟨more', htokens, hclear, hlength, hexprs⟩ := more.exists_clear htold.2
    have hitem : _ ∨ first = false ∧ _ := htold.1.clear_or
    rcases hitem with hatom | ⟨hfirst, label, name, inner, inline, hitem⟩
    · obtain ⟨item', htokens', hclear', hexpr'⟩ := item.exists_clear htold.1 hatom
      refine ⟨.cons item' more', ?_, ⟨?_, hclear⟩, Nat.succ_le_succ hlength, fun h => ?_⟩
      · rw [Items.tokens, Items.tokens, htokens, htokens']
      · rw [htokens]
        exact hclear'
      · obtain ⟨hhead, htail⟩ := List.cons.inj h
        exact ⟨hexpr' hhead, hexprs htail⟩
    · -- the argument becomes an element of its own
      subst hitem
      refine ⟨.cons (.atom label (.rule name none none) none)
        (.cons (.atom none (.member (.charset inner inline)) none) more'),
        ?_, ⟨?_, trivial, hclear⟩, ?_, fun h => ?_⟩
      · simp [Items.tokens, Item.tokens, Atom.tokens, Member.tokens, labelTokens, suffixTokens,
          optionTokens, htokens]
      · refine .inr (.inr fun inner' hhead => ?_)
        cases hhead
        exact ⟨hfirst, inline, more'.behind_tokens⟩
      · exact Nat.succ_le_succ (Nat.le_succ_of_le hlength)
      · have htail := congrArg List.length (List.cons.inj h).2
        rw [Items.exprs, List.length_cons] at htail
        omega

/-- **Every body is spelled like a clear one**, which says the same only if the body is clear. -/
theorem Body.exists_clear : (b : Body) → b.Told →
    ∃ b' : Body, b'.tokens = b.tokens ∧ b'.Clear ∧ (b'.exprs = b.exprs → b.Clear)
  | .last options items ending, htold => by
    obtain ⟨items', htokens, hclear, -, hexprs⟩ := items.exists_clear htold
    refine ⟨.last options items' ending, ?_, hclear, fun h => ?_⟩
    · rw [Body.tokens, Body.tokens, htokens]
    · have hsequence := (List.cons.inj h).1
      injection hsequence with hall
      exact hexprs (List.append_cancel_right hall)
  | .more options items ending rest, htold => by
    obtain ⟨items', htokens, hclear, -, hexprs⟩ := items.exists_clear htold.1
    obtain ⟨rest', htokens', hclear', hexprs'⟩ := rest.exists_clear htold.2
    refine ⟨.more options items' ending rest', ?_, ⟨hclear, hclear'⟩, fun h => ?_⟩
    · rw [Body.tokens, Body.tokens, htokens, htokens']
    · obtain ⟨hsequence, hrest⟩ := List.cons.inj h
      injection hsequence with hall
      exact ⟨hexprs (List.append_cancel_right hall), hexprs' hrest⟩

end

end GrammarManual.G4
