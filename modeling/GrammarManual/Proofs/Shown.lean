import GrammarManual.Proofs.Marks
import GrammarManual.Proofs.Survey

/-!
# Proofs/Shown: which names a body shows

The names recorded in a walk and the names written later come from two different places. Here they
meet: **`identifier_mem_iff_refers`** -- the marks of a rule hold the identifier of a rule exactly
if the rule refers to it.
-/

namespace GrammarManual

/-- The name that a leaf is shown as, if it is shown as one. -/
def View.name? (v : View) (mode : Mode) : Expr → Option String
  | .reference name => some name
  | .literal text => v.literals.shown? mode text
  | _ => none

section Identifiers

variable {v : View} {mode : Mode} {x : String}

/-- A leaf is marked as an identifier if it is shown as a name. -/
theorem View.mark?_eq_identifier {leaf : Expr} :
    v.mark? mode leaf = some (.identifier x) ↔ v.name? mode leaf = some x := by
  cases leaf with
  | reference name => simp [mark?, name?]
  | literal text => cases h : v.literals.shown? mode text <;> simp [mark?, name?, h]
  | _ => simp [mark?, name?]

/-- The identifiers in a layout are the names of its leaves. -/
theorem identifier_mem_layout (e : Expr) (depth : Nat) :
    .identifier x ∈ (e.layout v mode depth).markers ↔
      ∃ leaf ∈ e.leaves, v.name? mode leaf = some x := by
  constructor
  · intro hx
    have hown : ∀ mark ∈ Layout.ownMarks, ∀ y, mark = .identifier y →
        ∃ leaf ∈ e.leaves, v.name? mode leaf = some y := by
      simp [Layout.ownMarks]
    refine shows_layout hown e depth (fun leaf hleaf mark hmark y hy => ?_) _ hx x rfl
    refine ⟨leaf, hleaf, ?_⟩
    exact View.mark?_eq_identifier.mp (hmark.trans (congrArg some hy))
  · rintro ⟨leaf, hleaf, hname⟩
    exact leaf_mem_layout (View.mark?_eq_identifier.mpr hname) e depth hleaf

end Identifiers

namespace Script.Source

/-- **A rule shows the identifier of a name exactly if it refers to it.** -/
theorem identifier_mem_iff_refers (s : Source) (mode : Mode) (r : Rule) (x : String) :
    .identifier x ∈ (s.itemOf mode r).body.markers ↔ s.rules.Refers mode r x := by
  show .identifier x ∈ (r.body.layout s.view mode 0).markers ↔ _
  rw [identifier_mem_layout]
  constructor
  · rintro ⟨leaf, hleaf, hs⟩
    cases leaf with
    | reference name =>
      cases hs
      exact .inl hleaf
    | literal text =>
      obtain ⟨hm, ht⟩ := LiteralIndex.shown?_eq_some.mp hs
      exact .inr ⟨hm, text, hleaf, ht⟩
    | _ => cases hs
  · rintro (hleaf | ⟨hm, text, hleaf, ht⟩)
    · exact ⟨_, hleaf, rfl⟩
    · exact ⟨_, hleaf, LiteralIndex.shown?_eq_some.mpr ⟨hm, ht⟩⟩

end Script.Source

end GrammarManual
