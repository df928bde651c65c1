import GrammarManual.Text.Blank
import GrammarManual.Text.Lines

/-!
# Blurb/Block: blurbs without their markup

A blurb comes down to paragraphs, code blocks and lists. `Block.linesOf` flattens them to plain
lines, blocks separated by blank lines: a paragraph is one line, code is indented by four, the
content of a list item is indented behind its bullet. `Inline.textOf` flattens a paragraph: emphasis
is dropped, code spans keep their quotes, a link is followed by its target unless the label says it.
-/

namespace GrammarManual

/-- A part of a paragraph. -/
inductive Inline where
  | text (s : String)
  | code (s : String)
  | link (url : String) (label : List Inline)
  | emphasis (content : List Inline)
  deriving Repr, Inhabited

namespace Inline

mutual

/-- The plain text of a part. -/
def toText : Inline → String
  | text s => s
  | code s => "`" ++ s ++ "`"
  | link url label =>
    let l := textOf label
    if l = url then l else l ++ " (" ++ url ++ ")"
  | emphasis content => textOf content

/-- The plain text of parts. -/
def textOf : List Inline → String
  | [] => ""
  | i :: is => toText i ++ textOf is

end

end Inline

/-- A block of a blurb. -/
inductive Block where
  | paragraph (content : List Inline)
  | code (text : String)
  | list (ordered : Bool) (items : List Block)
  /-- The content of a list item. -/
  | item (content : List Block)
  deriving Repr, Inhabited

namespace Block

/-- Whether a block keeps a distance to the lines above it. -/
def isApart : Block → Bool
  | item _ => false
  | _ => true

/-- What stands before the first line of a list item. -/
def bullet (ordered : Bool) (number : Nat) : String :=
  if ordered then toString number ++ ". " else "- "

/-- The lines of a list item: the first behind the bullet, the others below it. An item without
    lines still has its bullet. -/
def itemLines (indent bullet : String) (content : List String) : List String :=
  let pad := String.ofList (List.replicate bullet.length ' ')
  (indent ++ bullet ++ content.headD "") ::
    content.tail.map fun line => if line.isEmpty then "" else indent ++ pad ++ line

mutual

/-- The lines of one block. -/
def lines (indent : String) : Block → List String
  | paragraph content => [indent ++ Text.trim (Inline.textOf content)]
  | code text => (Text.lines text).map fun line => indent ++ "    " ++ line
  | list ordered items => listLines indent ordered 1 items
  | item content => linesFrom indent false content

/-- The lines of blocks; `begun` says that there are lines above. -/
def linesFrom (indent : String) (begun : Bool) : List Block → List String
  | [] => []
  | b :: bs =>
    let own := (if begun && b.isApart then [""] else []) ++ lines indent b
    own ++ linesFrom indent (begun || !own.isEmpty) bs

/-- The lines of list items, numbered from `number`. -/
def listLines (indent : String) (ordered : Bool) (number : Nat) : List Block → List String
  | [] => []
  | b :: bs =>
    itemLines indent (bullet ordered number) (lines "" b) ++
      listLines indent ordered (number + 1) bs

end

/-- The lines of blocks. -/
def linesOf (indent : String) (bs : List Block) : List String := linesFrom indent false bs

end Block

end GrammarManual
