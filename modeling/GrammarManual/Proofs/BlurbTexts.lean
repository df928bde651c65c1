import GrammarManual.Blurb.Read
import GrammarManual.Proofs.Comments

/-!
# Proofs/BlurbTexts: what plain lines keep of a blurb

A blurb comes down to plain lines in two conversions: from the tree of its Markdown to blocks, and
from the blocks to lines. All that is to be seen in the tree is on the lines, in its order, but for
quotes, the descriptions of images and the numbers of lists that do not begin at one.

* `Text.InOrder`, `Text.OnLines` -- items shown by pieces of a text or of lines, one piece behind
  another;
* `Markdown.Leaf` -- what is to be seen in a tree: paragraphs, lines of code, numbers of list items;
  `Markdown.Extent` says whether quotes and images count;
* `inOrder_ofSpan`, `onLines_ofNode` -- one span, and one node, keep what is to be seen in them;
* `leaves_whole` -- a tree without quotes and images whose lists begin at one;
* **`blurb_stays_visible`** -- the lines of a blurb show all leaves of its tree;
* `blurb_loses_quotes` -- blurbs that lose a quote, an image and a number.
-/

namespace GrammarManual

namespace Text

/-! ## 1. Pieces in order -/

section

variable {α : Type}

/-- Some items are shown by pieces of a text, each behind the one before. -/
def InOrder (Shows : α → List Char → Prop) : List α → List Char → Prop
  | [], _ => True
  | a :: as, s => ∃ before piece after,
      s = before ++ piece ++ after ∧ Shows a piece ∧ InOrder Shows as after

/-- Some items are shown by pieces of lines, each within one line and behind the one before. -/
inductive OnLines (Shows : α → List Char → Prop) : List α → List String → Prop
  | nil : OnLines Shows [] []
  | line {as bs : List α} {line : String} {lines : List String} :
      InOrder Shows as line.toList → OnLines Shows bs lines →
        OnLines Shows (as ++ bs) (line :: lines)

variable {Shows : α → List Char → Prop} {as bs : List α}

theorem inOrder_single {a : α} {before piece after : List Char} (h : Shows a piece) :
    InOrder Shows [a] (before ++ piece ++ after) :=
  ⟨before, piece, after, rfl, h, trivial⟩

theorem InOrder.behind {s : List Char} (h : InOrder Shows as s) (front : List Char) :
    InOrder Shows as (front ++ s) := by
  cases as with
  | nil => trivial
  | cons a as =>
    obtain ⟨before, piece, after, rfl, ha, has⟩ := h
    exact ⟨front ++ before, piece, after, by simp only [List.append_assoc], ha, has⟩

theorem InOrder.append {s t : List Char} (h : InOrder Shows as s) (h' : InOrder Shows bs t) :
    InOrder Shows (as ++ bs) (s ++ t) := by
  induction as generalizing s with
  | nil => exact h'.behind s
  | cons a as ih =>
    obtain ⟨before, piece, after, rfl, ha, has⟩ := h
    exact ⟨before, piece, after ++ t, by simp only [List.append_assoc], ha, ih has⟩

theorem InOrder.before {s : List Char} (h : InOrder Shows as s) (back : List Char) :
    InOrder Shows as (s ++ back) := by
  have hback : InOrder Shows ([] : List α) back := trivial
  rw [← List.append_nil as]
  exact h.append hback

theorem InOrder.onLines {line : String} (h : InOrder Shows as line.toList) :
    OnLines Shows as [line] := by
  rw [← List.append_nil as]
  exact .line h .nil

/-- A line above shows nothing. -/
theorem OnLines.under {lines : List String} (h : OnLines Shows as lines) (line : String) :
    OnLines Shows as (line :: lines) := by
  have hline : InOrder Shows ([] : List α) line.toList := trivial
  exact .line hline h

theorem OnLines.append {above below : List String} (h : OnLines Shows as above)
    (h' : OnLines Shows bs below) : OnLines Shows (as ++ bs) (above ++ below) := by
  induction h with
  | nil => exact h'
  | line hline _ ih =>
    rw [List.append_assoc]
    exact .line hline ih

theorem InOrder.exists_piece {s : List Char} (h : InOrder Shows as s) {a : α} (ha : a ∈ as) :
    ∃ piece, piece <:+: s ∧ Shows a piece := by
  induction as generalizing s with
  | nil => exact absurd ha List.not_mem_nil
  | cons b as ih =>
    obtain ⟨before, piece, after, rfl, hb, has⟩ := h
    rcases List.mem_cons.mp ha with rfl | ha
    · exact ⟨piece, List.infix_append _ _ _, hb⟩
    · obtain ⟨piece', hpiece, hshown⟩ := ih has ha
      exact ⟨piece', hpiece.trans (List.suffix_append _ _).isInfix, hshown⟩

theorem OnLines.exists_line {lines : List String} (h : OnLines Shows as lines) {a : α}
    (ha : a ∈ as) : ∃ line ∈ lines, ∃ piece, piece <:+: line.toList ∧ Shows a piece := by
  induction h with
  | nil => exact absurd ha List.not_mem_nil
  | line hline _ ih =>
    rcases List.mem_append.mp ha with ha | ha
    · exact ⟨_, List.mem_cons_self, hline.exists_piece ha⟩
    · obtain ⟨line, hmem, hshown⟩ := ih ha
      exact ⟨line, List.mem_cons_of_mem _ hmem, hshown⟩

/-- Lines keep what they show when more is written before them. -/
theorem OnLines.map {lines : List String} (h : OnLines Shows as lines) {f : String → String}
    (hf : ∀ line, line.toList <:+ (f line).toList) : OnLines Shows as (lines.map f) := by
  induction h with
  | nil => exact .nil
  | line hline _ ih =>
    obtain ⟨front, hfront⟩ := hf _
    exact .line (hfront ▸ hline.behind front) ih

/-- A line for each of some items. -/
theorem onLines_map {β : Type} {f : β → α} {g : β → String} (xs : List β)
    (h : ∀ x, InOrder Shows [f x] (g x).toList) : OnLines Shows (xs.map f) (xs.map g) := by
  induction xs with
  | nil => exact .nil
  | cons x xs ih => exact .line (h x) ih

end

/-- A text is what is left of it by trimming, with blanks at both ends. -/
theorem trim_append (s : String) : ∃ left right : List Char,
    (∀ c ∈ left ++ right, isBlank c = true) ∧ s.toList = left ++ (trim s).toList ++ right := by
  have hback : dropEndWhile isBlank (s.toList.dropWhile isBlank) ++
      (s.toList.dropWhile isBlank).rtakeWhile isBlank = s.toList.dropWhile isBlank :=
    List.rdropWhile_append_rtakeWhile
  refine ⟨s.toList.takeWhile isBlank, (s.toList.dropWhile isBlank).rtakeWhile isBlank,
    fun c hc => ?_, ?_⟩
  · rcases List.mem_append.mp hc with hc | hc
    · exact List.mem_takeWhile_imp hc
    · exact List.mem_rtakeWhile_imp hc
  · rw [trim, String.toList_ofList, List.append_assoc, hback, List.takeWhile_append_dropWhile]

end Text

open Text (InOrder OnLines)

namespace Markdown

/-! ## 2. What is to be seen in a tree -/

/-- How much of a tree is asked for. -/
inductive Extent where
  /-- All of it; the items of a list bear the numbers that the list says. -/
  | whole
  /-- What stands outside of quotes and images; the items of a list are numbered from one. -/
  | plain
  deriving DecidableEq, Repr

mutual

/-- What is to be seen of a span: its texts and codes, and the target of a link unless the label
    says it. -/
def Span.texts (e : Extent) : Span → List (List Char)
  | .text s => [s]
  | .code s => [s]
  | .emphasis content => textsOf e content
  | .link url label => textsOf e label ++
      if Inline.textOf (Inline.ofSpans label) = String.ofList url then [] else [url]
  | .image label =>
    match e with
    | .whole => textsOf e label
    | .plain => []
  | .html => []
  | .lineBreak => []

/-- What is to be seen of spans. -/
def Span.textsOf (e : Extent) : List Span → List (List Char)
  | [] => []
  | s :: rest => texts e s ++ textsOf e rest

end

/-- Something to be seen in a tree. -/
inductive Leaf where
  /-- The texts of a paragraph. -/
  | paragraph (texts : List (List Char))
  | codeLine (s : List Char)
  /-- The number of a list item. -/
  | number (n : Nat)
  deriving DecidableEq, Repr

/-- A leaf is shown by a piece of text: the texts of a paragraph in order, but for blanks at both
    ends of the paragraph. -/
def Leaf.ShownBy : Leaf → List Char → Prop
  | paragraph texts, piece => ∃ left right : List Char,
      (∀ c ∈ left ++ right, isBlank c = true) ∧ InOrder Eq texts (left ++ piece ++ right)
  | codeLine s, piece => piece = s
  | number n, piece => piece = (toString n ++ ". ").toList

namespace Node

/-- The number of the first item of a list. -/
def firstNumber (e : Extent) (start : Nat) : Nat :=
  match e with
  | .whole => start
  | .plain => 1

variable (e : Extent) (ds : Definitions)

mutual

/-- The leaves of a node. White space at the end of code is not to be seen, and no line boundary in
    it is. -/
def leaves : Node → List Leaf
  | .paragraph text => [.paragraph (Span.textsOf e (Span.read ds text))]
  | .heading text => [.paragraph (Span.textsOf e (Span.read ds text))]
  | .code text => (Text.splitLines (Text.dropEndWhile isBlank text)).map .codeLine
  | .list start? items => itemLeaves (start?.map (firstNumber e)) items
  | .quote content =>
    match e with
    | .whole => leavesOf content
    | .plain => []
  | .rule => []
  | .html => []
  | .blank => []

/-- The leaves of nodes. -/
def leavesOf : List Node → List Leaf
  | [] => []
  | n :: rest => leaves n ++ leavesOf rest

/-- The leaves of list items, numbered from `number?` if they are. -/
def itemLeaves (number? : Option Nat) : List (List Node) → List Leaf
  | [] => []
  | content :: rest => (number?.map Leaf.number).toList ++ leavesOf content ++
      itemLeaves (number?.map (· + 1)) rest

end

end Node

end Markdown

open Markdown (Span Node Leaf Definitions)

/-! ## 3. Spans -/

namespace Inline

theorem textOf_append (is js : List Inline) : textOf (is ++ js) = textOf is ++ textOf js := by
  induction is with
  | nil => exact String.empty_append.symm
  | cons i is ih => rw [List.cons_append, textOf, textOf, ih, String.append_assoc]

/-- The text of a single part. -/
theorem textOf_single (i : Inline) : textOf [i] = toText i := String.append_empty

mutual

/-- **The plain text of a span shows all that is to be seen in it.** -/
theorem inOrder_ofSpan : ∀ s : Span,
    InOrder Eq (s.texts .plain) (textOf (ofSpan s)).toList
  | .text s => by
    rw [ofSpan, textOf_single, toText, String.toList_ofList]
    exact ⟨[], s, [], (List.append_nil s).symm, rfl, trivial⟩
  | .code s => by
    rw [ofSpan, textOf_single, toText, String.toList_append, String.toList_append]
    exact Text.inOrder_single String.toList_ofList.symm
  | .emphasis content => by
    rw [ofSpan, textOf_single]
    exact inOrder_ofSpans content
  | .link url label => by
    have hlabel := inOrder_ofSpans label
    rw [ofSpan, textOf_single, toText, Span.texts]
    split
    · rw [List.append_nil]
      exact hlabel
    · -- the label does not say the target, which stands behind it
      simp only [String.toList_append, String.toList_ofList, List.append_assoc]
      refine hlabel.append ?_
      exact ⟨" (".toList, url, ")".toList, (List.append_assoc _ _ _).symm, rfl, trivial⟩
  | .image _ => trivial
  | .html => trivial
  | .lineBreak => trivial

theorem inOrder_ofSpans : ∀ ss : List Span,
    InOrder Eq (Span.textsOf .plain ss) (textOf (ofSpans ss)).toList
  | [] => trivial
  | s :: rest => by
    rw [ofSpans, textOf_append, String.toList_append]
    exact (inOrder_ofSpan s).append (inOrder_ofSpans rest)

end

end Inline

/-! ## 4. Nodes -/

namespace Block

variable {as : List Leaf} {indent : String}

/-- The line of a paragraph. -/
theorem onLines_paragraph (indent : String) (ss : List Span) :
    OnLines Leaf.ShownBy [.paragraph (Span.textsOf .plain ss)]
      (lines indent (.paragraph (Inline.ofSpans ss))) := by
  obtain ⟨left, right, hblank, htext⟩ := Text.trim_append (Inline.textOf (Inline.ofSpans ss))
  have hshown : Leaf.ShownBy (.paragraph (Span.textsOf .plain ss))
      (Text.trim (Inline.textOf (Inline.ofSpans ss))).toList :=
    ⟨left, right, hblank, htext ▸ Inline.inOrder_ofSpans ss⟩
  refine Text.InOrder.onLines ?_
  rw [String.toList_append, ← List.append_nil (indent.toList ++ _)]
  exact Text.inOrder_single hshown

/-- The lines of code. -/
theorem onLines_code (indent : String) (text : List Char) :
    OnLines Leaf.ShownBy ((Text.splitLines (Text.dropEndWhile isBlank text)).map .codeLine)
      (lines indent (.code (Text.trimEnd (String.ofList text)))) := by
  rw [lines, Text.lines, Text.trimEnd, String.toList_ofList, String.toList_ofList, List.map_map]
  refine Text.onLines_map _ fun line => ?_
  rw [Function.comp_apply, String.toList_append, String.toList_ofList,
    ← List.append_nil (_ ++ line)]
  exact Text.inOrder_single rfl

/-- The lines of a list item show what its bullet shows and then what its content shows. -/
theorem onLines_item {own : List Leaf} {bullet : String} {content : List String}
    (hbullet : InOrder Leaf.ShownBy own bullet.toList) (h : OnLines Leaf.ShownBy as content) :
    OnLines Leaf.ShownBy (own ++ as) (itemLines indent bullet content) := by
  cases h with
  | nil =>
    refine .line ?_ .nil
    rw [String.toList_append, String.toList_append]
    exact (hbullet.behind _).before _
  | @line first rest line below hline hbelow =>
    rw [← List.append_assoc]
    -- the first line stands behind the bullet, the others stand below it, indented or empty
    refine .line ?_ (hbelow.map fun line => ?_)
    · rw [String.toList_append, String.toList_append]
      exact (hbullet.behind _).append hline
    · split
      · rename_i hempty
        obtain rfl := String.isEmpty_iff.mp hempty
        exact List.suffix_refl _
      · rw [String.toList_append]
        exact List.suffix_append _ _

/-- Blocks are written one behind another. -/
theorem linesFrom_append (indent : String) (begun : Bool) (bs cs : List Block) :
    ∃ begun', linesFrom indent begun (bs ++ cs) =
      linesFrom indent begun bs ++ linesFrom indent begun' cs := by
  induction bs generalizing begun with
  | nil => exact ⟨begun, rfl⟩
  | cons b bs ih =>
    rw [List.cons_append, linesFrom, linesFrom]
    obtain ⟨begun', h⟩ := ih _
    exact ⟨begun', by rw [h]; exact (List.append_assoc _ _ _).symm⟩

/-- A distance above a block hides nothing. -/
theorem onLines_single {b : Block} (h : OnLines Leaf.ShownBy as (lines indent b)) (begun : Bool) :
    OnLines Leaf.ShownBy as (linesFrom indent begun [b]) := by
  rw [linesFrom, linesFrom, List.append_nil]
  split
  · exact h.under ""
  · exact h

variable (ds : Definitions)

mutual

/-- **The lines of a node show all that is to be seen in it**, wherever it stands. -/
theorem onLines_ofNode : ∀ (n : Node) (indent : String) (begun : Bool),
    OnLines Leaf.ShownBy (n.leaves .plain ds) (linesFrom indent begun (ofNode ds n))
  | .paragraph text, indent, begun => onLines_single (onLines_paragraph indent _) begun
  | .heading text, indent, begun => onLines_single (onLines_paragraph indent _) begun
  | .code text, indent, begun => onLines_single (onLines_code indent text) begun
  | .list start? items, indent, begun => by
    refine onLines_single ?_ begun
    have hitems := onLines_ofItems items indent start?.isSome 1
    cases start? <;> exact hitems
  | .quote _, _, _ => .nil
  | .rule, _, _ => .nil
  | .html, _, _ => .nil
  | .blank, _, _ => .nil

theorem onLines_ofNodes : ∀ (ns : List Node) (indent : String) (begun : Bool),
    OnLines Leaf.ShownBy (Node.leavesOf .plain ds ns) (linesFrom indent begun (ofNodes ds ns))
  | [], _, _ => .nil
  | n :: rest, indent, begun => by
    obtain ⟨begun', hlines⟩ := linesFrom_append indent begun (ofNode ds n) (ofNodes ds rest)
    rw [ofNodes, hlines]
    exact (onLines_ofNode n indent begun).append (onLines_ofNodes rest indent begun')

theorem onLines_ofItems : ∀ (items : List (List Node)) (indent : String) (ordered : Bool)
    (number : Nat),
    OnLines Leaf.ShownBy
      (Node.itemLeaves .plain ds (if ordered then some number else none) items)
      (listLines indent ordered number (ofItems ds items))
  | [], _, _, _ => .nil
  | content :: rest, indent, ordered, number => by
    have hcontent := onLines_ofNodes content "" false
    have hrest := onLines_ofItems rest indent ordered (number + 1)
    cases ordered with
    | false =>
      have hnone : InOrder Leaf.ShownBy [] (bullet false number).toList := trivial
      exact (onLines_item hnone hcontent).append hrest
    | true =>
      have hnumber : InOrder Leaf.ShownBy [.number number] (bullet true number).toList :=
        ⟨[], _, [], (List.append_nil _).symm, rfl, trivial⟩
      exact (onLines_item hnumber hcontent).append hrest

end

end Block

/-! ## 5. Trees without quotes and images -/

namespace Markdown

mutual

/-- Whether a span holds no image. -/
def Span.isPlain : Span → Bool
  | .text _ => true
  | .code _ => true
  | .emphasis content => arePlain content
  | .link _ label => arePlain label
  | .image _ => false
  | .html => true
  | .lineBreak => true

/-- Whether spans hold no image. -/
def Span.arePlain : List Span → Bool
  | [] => true
  | s :: rest => isPlain s && arePlain rest

end

mutual

theorem Span.texts_whole : ∀ s : Span, s.isPlain = true → s.texts .whole = s.texts .plain
  | .text _, _ => rfl
  | .code _, _ => rfl
  | .emphasis content, h => textsOf_whole content h
  | .link _ label, h => congrArg (· ++ _) (textsOf_whole label h)
  | .image _, h => absurd h Bool.false_ne_true
  | .html, _ => rfl
  | .lineBreak, _ => rfl

theorem Span.textsOf_whole :
    ∀ ss : List Span, arePlain ss = true → textsOf .whole ss = textsOf .plain ss
  | [], _ => rfl
  | s :: rest, h => by
    obtain ⟨hs, hrest⟩ := Bool.and_eq_true_iff.mp h
    rw [textsOf, textsOf, texts_whole s hs, textsOf_whole rest hrest]

end

namespace Node

variable (ds : Definitions)

mutual

/-- Whether a node holds no quote and no image, and no list with another first number than one. -/
def isPlain : Node → Bool
  | .paragraph text => Span.arePlain (Span.read ds text)
  | .heading text => Span.arePlain (Span.read ds text)
  | .code _ => true
  | .list start? items => start?.getD 1 == 1 && itemsPlain items
  | .quote _ => false
  | .rule => true
  | .html => true
  | .blank => true

/-- The same of nodes. -/
def arePlain : List Node → Bool
  | [] => true
  | n :: rest => isPlain n && arePlain rest

/-- The same of list items. -/
def itemsPlain : List (List Node) → Bool
  | [] => true
  | content :: rest => arePlain content && itemsPlain rest

end

variable {ds : Definitions}

mutual

theorem leaves_whole : ∀ n : Node, n.isPlain ds = true → n.leaves .whole ds = n.leaves .plain ds
  | .paragraph text, h => by rw [leaves, leaves, Span.textsOf_whole _ h]
  | .heading text, h => by rw [leaves, leaves, Span.textsOf_whole _ h]
  | .code _, _ => rfl
  | .list start? items, h => by
    obtain ⟨hstart, hitems⟩ := Bool.and_eq_true_iff.mp h
    have hfirst : start?.map (firstNumber .whole) = start?.map (firstNumber .plain) := by
      cases start? with
      | none => rfl
      | some start => exact congrArg some (beq_iff_eq.mp hstart)
    rw [leaves, leaves, hfirst, itemLeaves_whole items _ hitems]
  | .quote _, h => absurd h Bool.false_ne_true
  | .rule, _ => rfl
  | .html, _ => rfl
  | .blank, _ => rfl

theorem leavesOf_whole :
    ∀ ns : List Node, arePlain ds ns = true → leavesOf .whole ds ns = leavesOf .plain ds ns
  | [], _ => rfl
  | n :: rest, h => by
    obtain ⟨hn, hrest⟩ := Bool.and_eq_true_iff.mp h
    rw [leavesOf, leavesOf, leaves_whole n hn, leavesOf_whole rest hrest]

theorem itemLeaves_whole : ∀ (items : List (List Node)) (number? : Option Nat),
    itemsPlain ds items = true →
      itemLeaves .whole ds number? items = itemLeaves .plain ds number? items
  | [], _, _ => rfl
  | content :: rest, number?, h => by
    obtain ⟨hcontent, hrest⟩ := Bool.and_eq_true_iff.mp h
    rw [itemLeaves, itemLeaves, leavesOf_whole content hcontent, itemLeaves_whole rest _ hrest]

end

end Node

end Markdown

/-! ## 6. Blurbs -/

/-- What is to be seen in a blurb. -/
def blurbLeaves (e : Markdown.Extent) (blurb : String) : List Leaf :=
  let (nodes, ds) := Node.read blurb.toList
  Node.leavesOf e ds nodes

/-- Whether a blurb holds no quote and no image, and no list with another first number than one. -/
def isPlainBlurb (blurb : String) : Bool :=
  let (nodes, ds) := Node.read blurb.toList
  Node.arePlain ds nodes

/-- **What is to be seen in a blurb is on its lines**, in its order: the texts and codes of its
    paragraphs, the targets of its links, the lines of its code and the numbers of its list items.
    Only quotes and the descriptions of images are left out, and lists are numbered from one; a
    blurb without quotes and images whose lists begin at one loses nothing. -/
theorem blurb_stays_visible (blurb : String) :
    OnLines Leaf.ShownBy (blurbLeaves .plain blurb) (blurbLines blurb) ∧
      (isPlainBlurb blurb = true →
        OnLines Leaf.ShownBy (blurbLeaves .whole blurb) (blurbLines blurb)) := by
  have hshown : OnLines Leaf.ShownBy (blurbLeaves .plain blurb) (blurbLines blurb) :=
    Block.onLines_ofNodes _ _ "" false
  refine ⟨hshown, fun hplain => ?_⟩
  have hleaves : blurbLeaves .whole blurb = blurbLeaves .plain blurb :=
    Node.leavesOf_whole _ hplain
  rw [hleaves]
  exact hshown

theorem blurb_stays_visible_link :
    blurbLeaves .whole "1. see [a](b)\n2. `c`" =
        [.number 1, .paragraph ["see ".toList, ['a'], ['b']], .number 2, .paragraph [['c']]] ∧
      blurbLines "1. see [a](b)\n2. `c`" = ["1. see a (b)", "2. `c`"] ∧
      OnLines Leaf.ShownBy (blurbLeaves .whole "1. see [a](b)\n2. `c`")
        (blurbLines "1. see [a](b)\n2. `c`") :=
  ⟨by decide +kernel, by decide +kernel,
    (blurb_stays_visible "1. see [a](b)\n2. `c`").2 (by decide +kernel)⟩

/-- **What is lost**: a quote, the first number of a list, the description of an image. -/
theorem blurb_loses_quotes :
    ¬ OnLines Leaf.ShownBy (blurbLeaves .whole "> a") (blurbLines "> a") ∧
      ¬ OnLines Leaf.ShownBy (blurbLeaves .whole "3. a") (blurbLines "3. a") ∧
      ¬ OnLines Leaf.ShownBy (blurbLeaves .whole "![a](b)") (blurbLines "![a](b)") := by
  refine ⟨fun h => ?_, fun h => ?_, fun h => ?_⟩
  · have hquote : Leaf.paragraph [['a']] ∈ blurbLeaves .whole "> a" := by decide +kernel
    have hlines : blurbLines "> a" = [] := by decide +kernel
    obtain ⟨line, hmem, -⟩ := h.exists_line hquote
    rw [hlines] at hmem
    exact absurd hmem List.not_mem_nil
  · have hnumber : Leaf.number 3 ∈ blurbLeaves .whole "3. a" := by decide +kernel
    have hlines : blurbLines "3. a" = ["1. a"] := by decide +kernel
    obtain ⟨line, hmem, piece, hpiece, rfl⟩ := h.exists_line hnumber
    rw [hlines] at hmem
    cases List.mem_singleton.mp hmem
    exact absurd hpiece (by decide)
  · have himage : Leaf.paragraph [['a']] ∈ blurbLeaves .whole "![a](b)" := by decide +kernel
    have hlines : blurbLines "![a](b)" = [""] := by decide +kernel
    obtain ⟨line, hmem, piece, hpiece, left, right, hblank, htexts⟩ := h.exists_line himage
    rw [hlines] at hmem
    cases List.mem_singleton.mp hmem
    cases List.eq_nil_of_infix_nil hpiece
    obtain ⟨_, ha, rfl⟩ := htexts.exists_piece List.mem_cons_self
    rw [List.append_nil] at ha
    exact absurd (hblank 'a' (ha.subset List.mem_cons_self)) (by decide)

end GrammarManual
