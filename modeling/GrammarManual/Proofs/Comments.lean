import GrammarManual.Draft.Text
import GrammarManual.Proofs.SourceLines
import Mathlib.Data.List.DropRight

/-!
# Proofs/Comments: blurbs as comment lines

A text reads like a grammar, so whatever a blurb says has to stay a comment. That hangs on one
character: a newline within a line would let the rest of it stand by itself.

* `Text.plainLines` -- the lines of a text that are neither blank nor comments;
* `plainLines_intercalate` -- lines that are put together keep their own;
* `Block.tokens`, `IsFlat` -- the texts, codes and targets of a blurb, and that none of them holds a
  newline;
* `blurbLines_oneLine` -- the lines of a flat blurb hold no newline, however deep its lists are;
* **`comment_plainLines`** -- as comments they leave nothing.
-/

namespace GrammarManual

namespace Text

/-! ## 1. Plain lines -/

/-- Whether a line is a comment: it begins with two slashes. -/
def isComment (line : List Char) : Bool := ['/', '/'].isPrefixOf line

/-- The lines of a text that are neither blank nor comments. -/
def plainLines (text : List Char) : List (List Char) :=
  (splitNewlines text).filter fun line => !(line.all isBlank || isComment line)

theorem plainLines_append (a b : List Char) :
    plainLines (a ++ '\n' :: b) = plainLines a ++ plainLines b := by
  unfold plainLines
  rw [splitNewlines_append, List.filter_append]

theorem plainLines_nil : plainLines [] = [] := rfl

/-- A comment without newline leaves nothing. -/
theorem plainLines_comment {line : List Char} (hline : '\n' ∉ line)
    (hcomment : isComment line = true) : plainLines line = [] := by
  unfold plainLines
  rw [splitNewlines_oneLine hline, List.filter_singleton, hcomment, Bool.or_true]
  rfl

/-- **Lines that are put together keep their plain lines.** -/
theorem plainLines_intercalate (ls : List (List Char)) :
    plainLines (List.intercalate ['\n'] ls) = ls.flatMap plainLines := by
  induction ls with
  | nil => rfl
  | cons l ls ih =>
    cases ls with
    | nil => rw [List.intercalate_singleton, List.flatMap_singleton]
    | cons l' ls =>
      rw [List.intercalate_cons_cons, List.append_assoc, List.singleton_append, plainLines_append,
        ih]
      rfl

/-- So do blocks with a blank line between them. -/
theorem plainLines_blocks (bs : List (List Char)) :
    plainLines (List.intercalate ['\n', '\n'] bs) = bs.flatMap plainLines := by
  induction bs with
  | nil => rfl
  | cons b bs ih =>
    cases bs with
    | nil => rw [List.intercalate_singleton, List.flatMap_singleton]
    | cons b' bs =>
      have hgap : List.intercalate ['\n', '\n'] (b :: b' :: bs) =
          b ++ '\n' :: ([] ++ '\n' :: List.intercalate ['\n', '\n'] (b' :: bs)) := by
        rw [List.intercalate_cons_cons, List.append_assoc]
        rfl
      rw [hgap, plainLines_append, plainLines_append, plainLines_nil, ih, List.flatMap_cons]
      rfl

/-! ## 2. Lines without newline -/

theorem dropEndWhile_subset {α : Type} (p : α → Bool) (l : List α) : dropEndWhile p l ⊆ l :=
  (List.rdropWhile_prefix p l).subset

theorem trim_subset (s : String) : (trim s).toList ⊆ s.toList := by
  unfold trim
  rw [String.toList_ofList]
  exact List.Subset.trans (dropEndWhile_subset _ _) (List.dropWhile_suffix _).subset

theorem trimEnd_subset (s : String) : (trimEnd s).toList ⊆ s.toList := by
  unfold trimEnd
  rw [String.toList_ofList]
  exact dropEndWhile_subset _ _

/-- What ends in something that is not dropped stays whole. -/
theorem dropEndWhile_append {α : Type} {p : α → Bool} {a : α} (ha : p a = false)
    (front back : List α) : ∃ rest, dropEndWhile p (front ++ a :: back) = front ++ a :: rest := by
  induction back using List.reverseRecOn with
  | nil =>
    refine ⟨[], ?_⟩
    exact (List.rdropWhile_concat p front a).trans (by rw [ha]; rfl)
  | append_singleton back b ih =>
    have hb : dropEndWhile p (front ++ a :: (back ++ [b])) =
        if p b then dropEndWhile p (front ++ a :: back) else front ++ a :: (back ++ [b]) := by
      have hassoc : front ++ a :: (back ++ [b]) = (front ++ a :: back) ++ [b] := by
        rw [List.append_assoc, List.cons_append]
      rw [hassoc]
      exact List.rdropWhile_concat p _ b
    rw [hb]
    split
    · exact ih
    · exact ⟨_, rfl⟩

/-- Printed lines hold no newline. -/
theorem splitLines_oneLine (s : List Char) : ∀ line ∈ splitLines s, '\n' ∉ line := by
  have hchar : ∀ {c : Char}, ¬ isLineBoundary c = true → '\n' ≠ c := by
    rintro c hc rfl
    exact hc rfl
  fun_induction splitLines s with
  | case1 => exact fun line h => absurd h List.not_mem_nil
  | case2 rest ih => exact List.forall_mem_cons.mpr ⟨List.not_mem_nil, ih⟩
  | case3 c rest _ _ ih => exact List.forall_mem_cons.mpr ⟨List.not_mem_nil, ih⟩
  | case4 c rest _ hc _ _ =>
    refine List.forall_mem_singleton.mpr fun h => ?_
    exact hchar hc (List.mem_singleton.mp h)
  | case5 c rest _ hc line more hrest ih =>
    rw [hrest] at ih
    obtain ⟨hline, hmore⟩ := List.forall_mem_cons.mp ih
    refine List.forall_mem_cons.mpr ⟨fun h => ?_, hmore⟩
    rcases List.mem_cons.mp h with h | h
    · exact hchar hc h
    · exact hline h

end Text

/-! ## 3. The lines of a blurb -/

/-- Whether a text is on one line. -/
def Text.IsOneLine (s : String) : Prop := '\n' ∉ s.toList

instance (s : String) : Decidable (Text.IsOneLine s) :=
  inferInstanceAs (Decidable ('\n' ∉ s.toList))

open Text (IsOneLine)

namespace Text

theorem isOneLine_append {a b : String} : IsOneLine (a ++ b) ↔ IsOneLine a ∧ IsOneLine b := by
  unfold IsOneLine
  rw [String.toList_append, List.mem_append, not_or]

theorem IsOneLine.trim {s : String} (h : IsOneLine s) : IsOneLine (trim s) :=
  fun hm => h (trim_subset s hm)

theorem isOneLine_of_mem_lines {s line : String} (h : line ∈ lines s) : IsOneLine line := by
  obtain ⟨chars, hchars, rfl⟩ := List.mem_map.mp h
  unfold IsOneLine
  rw [String.toList_ofList]
  exact splitLines_oneLine _ chars hchars

end Text

open Text (isOneLine_append)

namespace Inline

mutual

/-- The texts, codes and targets of a part. -/
def tokens : Inline → List String
  | text s => [s]
  | code s => [s]
  | link url label => url :: tokensOf label
  | emphasis content => tokensOf content

/-- The texts, codes and targets of parts. -/
def tokensOf : List Inline → List String
  | [] => []
  | i :: is => tokens i ++ tokensOf is

end

mutual

theorem toText_oneLine : ∀ i : Inline, (∀ t ∈ tokens i, IsOneLine t) → IsOneLine (toText i)
  | text s, h => h s List.mem_cons_self
  | code s, h => by
    have hs : IsOneLine s := h s List.mem_cons_self
    have hquote : IsOneLine "`" := by decide
    exact isOneLine_append.mpr ⟨isOneLine_append.mpr ⟨hquote, hs⟩, hquote⟩
  | link url label, h => by
    have hurl : IsOneLine url := h url List.mem_cons_self
    have hlabel : IsOneLine (textOf label) :=
      textOf_oneLine label fun t ht => h t (List.mem_cons_of_mem url ht)
    show IsOneLine (if textOf label = url then textOf label else
      textOf label ++ " (" ++ url ++ ")")
    split
    · exact hlabel
    · simp only [isOneLine_append]
      exact ⟨⟨⟨hlabel, by decide⟩, hurl⟩, by decide⟩
  | emphasis content, h => textOf_oneLine content h

theorem textOf_oneLine :
    ∀ is : List Inline, (∀ t ∈ tokensOf is, IsOneLine t) → IsOneLine (textOf is)
  | [], _ => List.not_mem_nil
  | i :: is, h => isOneLine_append.mpr
    ⟨toText_oneLine i fun t ht => h t (List.mem_append_left _ ht),
      textOf_oneLine is fun t ht => h t (List.mem_append_right _ ht)⟩

end

end Inline

namespace Block

mutual

/-- The texts, codes and targets in the paragraphs of a block. -/
def tokens : Block → List String
  | paragraph content => Inline.tokensOf content
  | code _ => []
  | list _ items => tokensOf items
  | item content => tokensOf content

/-- The texts, codes and targets in the paragraphs of blocks. -/
def tokensOf : List Block → List String
  | [] => []
  | b :: bs => tokens b ++ tokensOf bs

end

theorem bullet_oneLine (ordered : Bool) (number : Nat) : IsOneLine (bullet ordered number) := by
  cases ordered with
  | false => exact (by decide : IsOneLine "- ")
  | true =>
    have hdigits : IsOneLine (toString number) := by
      show '\n' ∉ (Nat.repr number).toList
      rw [Nat.repr_eq_ofList_toDigits, String.toList_ofList]
      intro h
      have hdigit := Nat.isDigit_of_mem_toDigits (by omega) (by omega) h
      exact absurd hdigit (by decide)
    exact isOneLine_append.mpr ⟨hdigits, by decide⟩

/-- The lines of a list item hold a newline only if those of its content do. -/
theorem itemLines_oneLine {indent : String} (hindent : IsOneLine indent) (ordered : Bool)
    (number : Nat) {content : List String} (h : ∀ line ∈ content, IsOneLine line) :
    ∀ line ∈ itemLines indent (bullet ordered number) content, IsOneLine line := by
  have hpad : IsOneLine (String.ofList (List.replicate (bullet ordered number).length ' ')) := by
    unfold IsOneLine
    rw [String.toList_ofList]
    exact fun hm => absurd (List.eq_of_mem_replicate hm) (by decide)
  refine List.forall_mem_cons.mpr ⟨?_, fun line hline => ?_⟩
  · have hfirst : IsOneLine (content.headD "") := by
      cases content with
      | nil => exact List.not_mem_nil
      | cons line more => exact h line List.mem_cons_self
    simp only [isOneLine_append]
    exact ⟨⟨hindent, bullet_oneLine ordered number⟩, hfirst⟩
  · obtain ⟨below, hbelow, rfl⟩ := List.mem_map.mp hline
    split
    · exact List.not_mem_nil
    · simp only [isOneLine_append]
      exact ⟨⟨hindent, hpad⟩, h below (List.mem_of_mem_tail hbelow)⟩

mutual

theorem lines_oneLine : ∀ (b : Block) {indent : String}, IsOneLine indent →
    (∀ t ∈ tokens b, IsOneLine t) → ∀ line ∈ lines indent b, IsOneLine line
  | paragraph content, indent, hindent, h => by
    refine List.forall_mem_singleton.mpr (isOneLine_append.mpr ⟨hindent, ?_⟩)
    exact (Inline.textOf_oneLine content h).trim
  | code text, indent, hindent, _ => by
    intro line hline
    obtain ⟨own, hown, rfl⟩ := List.mem_map.mp hline
    simp only [isOneLine_append]
    exact ⟨⟨hindent, by decide⟩, Text.isOneLine_of_mem_lines hown⟩
  | list ordered items, _, hindent, h => listLines_oneLine items hindent ordered 1 h
  | item content, _, hindent, h => linesFrom_oneLine content hindent false h

theorem linesFrom_oneLine : ∀ (bs : List Block) {indent : String}, IsOneLine indent →
    ∀ begun : Bool, (∀ t ∈ tokensOf bs, IsOneLine t) →
      ∀ line ∈ linesFrom indent begun bs, IsOneLine line
  | [], _, _, _, _ => fun line h => absurd h List.not_mem_nil
  | b :: bs, indent, hindent, begun, h => by
    have hown := lines_oneLine b hindent fun t ht => h t (List.mem_append_left _ ht)
    intro line hline
    rcases List.mem_append.mp hline with hline | hline
    · rcases List.mem_append.mp hline with hgap | hline
      · split at hgap
        · rw [List.mem_singleton.mp hgap]
          exact List.not_mem_nil
        · exact absurd hgap List.not_mem_nil
      · exact hown line hline
    · exact linesFrom_oneLine bs hindent _ (fun t ht => h t (List.mem_append_right _ ht)) line hline

theorem listLines_oneLine : ∀ (bs : List Block) {indent : String}, IsOneLine indent →
    ∀ (ordered : Bool) (number : Nat), (∀ t ∈ tokensOf bs, IsOneLine t) →
      ∀ line ∈ listLines indent ordered number bs, IsOneLine line
  | [], _, _, _, _, _ => fun line h => absurd h List.not_mem_nil
  | b :: bs, indent, hindent, ordered, number, h => by
    have hown : ∀ line ∈ lines "" b, IsOneLine line :=
      lines_oneLine b List.not_mem_nil fun t ht => h t (List.mem_append_left _ ht)
    intro line hline
    rcases List.mem_append.mp hline with hline | hline
    · exact itemLines_oneLine hindent ordered number hown line hline
    · exact listLines_oneLine bs hindent ordered (number + 1)
        (fun t ht => h t (List.mem_append_right _ ht)) line hline

end

end Block

/-- Whether no text, code or target of a blurb holds a newline. -/
def IsFlat (blurb : String) : Prop := ∀ t ∈ Block.tokensOf (Block.read blurb), IsOneLine t

instance (blurb : String) : Decidable (IsFlat blurb) :=
  inferInstanceAs (Decidable (∀ t ∈ Block.tokensOf (Block.read blurb), IsOneLine t))

/-- **The lines of a flat blurb hold no newline**, whatever its blocks are. -/
theorem blurbLines_oneLine {blurb : String} (h : IsFlat blurb) :
    ∀ line ∈ blurbLines blurb, IsOneLine line :=
  Block.linesFrom_oneLine (Block.read blurb) (by decide) false h

/-! ## 4. Comments -/

/-- A line behind two slashes, its blanks at the end dropped, still begins with them. -/
theorem isComment_trimEnd (line : String) :
    Text.isComment (Text.trimEnd ("// " ++ line)).toList = true := by
  have hslash : isBlank '/' = false := by decide
  obtain ⟨rest, hrest⟩ := Text.dropEndWhile_append hslash ['/'] (' ' :: line.toList)
  unfold Text.trimEnd
  rw [String.toList_ofList, String.toList_append]
  exact (congrArg Text.isComment hrest).trans rfl

/-- **A flat blurb leaves no plain line.** -/
theorem comment_plainLines {blurb : String} (h : IsFlat blurb) :
    ∀ line ∈ TextDraft.comment blurb, Text.plainLines line.toList = [] := by
  intro line hline
  obtain ⟨own, hown, rfl⟩ := List.mem_map.mp hline
  refine Text.plainLines_comment (fun hm => ?_) (isComment_trimEnd own)
  have hslashes : IsOneLine "// " := by decide
  exact isOneLine_append.mpr ⟨hslashes, blurbLines_oneLine h own hown⟩ (Text.trimEnd_subset _ hm)

end GrammarManual
