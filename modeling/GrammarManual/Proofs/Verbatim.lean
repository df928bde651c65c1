import GrammarManual.Proofs.Marks
import GrammarManual.Proofs.SourceLines
import GrammarManual.Proofs.Strokes
import GrammarManual.Proofs.XmlReader

/-!
# Proofs/Verbatim: no carriage return is written verbatim

Newlines are unified when a file is read, so no text of a file holds a carriage return. This file
follows such texts to where a document writes them as they stand:

* `notMem_read`, `notMem_blurbOf` -- texts of files, and blurbs;
* `Layout.Writes`, `writes_layout` -- a body writes signs of its own and what its leaves quote;
* **`quoted_of_load`** -- no literal and no character set of a loaded rule set holds a carriage
  return; **`writes_of_load`** -- no body of it writes one.
-/

namespace GrammarManual

/-! ## 1. Texts of files -/

theorem FileTree.notMem_read {t : FileTree} {p : Path} {text : List Char}
    (h : t.read p = .ok text) : '\r' ∉ text := by
  unfold FileTree.read at h
  split at h
  · cases h
  · split at h
    · split at h
      · cases h
        exact XmlReader.notMem_unifyNewlines _
      · cases h
    · cases h
    · cases h

/-- No blurb holds a carriage return. -/
theorem Script.Source.notMem_blurbOf {s : Script.Source} {name text : String}
    (h : s.blurbOf name = some text) : '\r' ∉ text.toList := by
  unfold blurbOf readBlurb at h
  dsimp only at h
  split at h
  · rename_i found hfound
    subst h
    split at hfound
    · cases hfound
    · cases hfound
    · cases hread : s.files.read (blurbPath s.settings.docsFolder name) with
      | error e =>
        rw [hread] at hfound
        cases hfound
      | ok read =>
        rw [hread] at hfound
        cases hfound
        rw [String.toList_ofList]
        exact FileTree.notMem_read hread
  · cases h

/-! ## 2. Bodies -/

/-- The text of a mark that is written as it stands. -/
def Marker.verbatim? : Marker → Option String
  | .symbol text => some text
  | .string text => some text
  | _ => none

namespace Layout

/-- Whatever a layout writes as it stands has a property. -/
def Writes (P : String → Prop) (l : Layout) : Prop :=
  ∀ mark ∈ l.markers, ∀ text, mark.verbatim? = some text → P text

/-- The signs that layouts are put together with. -/
def signs : List String := ["|", "(", ")", "~", "..", "[", "]", ".", "?", "+", "*"]

/-- What layouts are put together with is blank, or one of the signs as it stands. -/
theorem signs_of_ownMarks :
    ∀ mark ∈ ownMarks, ∀ text, mark.verbatim? = some text → text ∈ signs := by
  have hall : ∀ mark ∈ ownMarks, mark.verbatim?.all (signs.contains ·) = true := by decide
  intro mark hmark text htext
  have hsign := hall mark hmark
  rw [htext] at hsign
  exact List.contains_iff_mem.mp hsign

end Layout

section Bodies

variable {P : String → Prop} {v : View} {mode : Mode}

/-- What a leaf has written as it stands is what it quotes. -/
theorem View.quoted_of_mark? {leaf : Expr} {mark : Marker} (h : v.mark? mode leaf = some mark)
    {text : String} (htext : mark.verbatim? = some text) : leaf.quoted? = some text := by
  cases leaf with
  | literal quoted =>
    unfold mark? at h
    dsimp only at h
    cases hshown : v.literals.shown? mode quoted with
    | none =>
      rw [hshown] at h
      cases h
      cases htext
      rfl
    | some token =>
      rw [hshown] at h
      cases h
      cases htext
  | charset quoted =>
    cases h
    cases htext
    rfl
  | reference name =>
    cases h
    cases htext
  | _ => cases h

/-- **A body writes signs of its own and what its leaves quote**, and nothing else as it stands. -/
theorem writes_layout (hsigns : ∀ t ∈ Layout.signs, P t) (e : Expr) (depth : Nat)
    (h : ∀ leaf ∈ e.leaves, ∀ quoted, leaf.quoted? = some quoted → P quoted) :
    (e.layout v mode depth).Writes P :=
  shows_layout
    (fun mark hmark text htext => hsigns text (Layout.signs_of_ownMarks mark hmark text htext))
    e depth
    fun leaf hleaf _ hmark text htext => h leaf hleaf text (View.quoted_of_mark? hmark htext)

end Bodies

/-! ## 3. Loaded rules -/

/-- **No literal and no character set of a loaded rule set holds a carriage return.** -/
theorem quoted_of_load {files : FileTree} {parserPath : Path} {lexerPath : Option Path}
    {g : RuleSet} (h : (RuleSet.load files parserPath lexerPath).result = .ok g) (mode : Mode) :
    ∀ r ∈ (g.table mode).rules, ∀ leaf ∈ r.body.leaves, ∀ quoted,
      leaf.quoted? = some quoted → '\r' ∉ quoted.toList := by
  intro r hr leaf hleaf quoted hquoted hreturn
  obtain ⟨f, hf, -, hrules⟩ := provides_of_load h mode
  obtain ⟨text, htext, hgrammar, -⟩ := Grammar.ofFile_ok hf
  have hcopied := copied_of_read hgrammar r (hrules r hr) leaf hleaf quoted hquoted
  exact FileTree.notMem_read htext (hcopied hreturn)

/-- **No body of a loaded rule set writes a carriage return as it stands.** -/
theorem Script.Source.writes_of_load {s : Script.Source} {files : FileTree} {parserPath : Path}
    {lexerPath : Option Path} (h : (RuleSet.load files parserPath lexerPath).result = .ok s.rules)
    {mode : Mode} {r : Rule} (hr : r ∈ (s.rules.table mode).rules) :
    (s.itemOf mode r).body.Writes fun text => '\r' ∉ text.toList :=
  writes_layout (by decide) r.body 0 (quoted_of_load h mode r hr)

end GrammarManual
