import GrammarManual.Blurb.Block
import GrammarManual.Blurb.Markdown.Blocks
import GrammarManual.Blurb.Markdown.Spans

/-!
# Blurb/Read: reading a blurb

A blurb is written in Markdown. Headings count as paragraphs and line breaks as blanks; white space
at the end of code is dropped. Quotes, rules, images and HTML say nothing in plain text and are left
out, and so are the numbers of list items.
-/

namespace GrammarManual

namespace Inline

mutual

/-- What a span says in plain text, if it says anything. -/
def ofSpan : Markdown.Span → List Inline
  | .text s => [.text (String.ofList s)]
  | .code s => [.code (String.ofList s)]
  | .emphasis content => [.emphasis (ofSpans content)]
  | .link url label => [.link (String.ofList url) (ofSpans label)]
  | .image _ => []
  | .html => []
  | .lineBreak => [.text " "]

/-- What spans say in plain text. -/
def ofSpans : List Markdown.Span → List Inline
  | [] => []
  | s :: rest => ofSpan s ++ ofSpans rest

end

end Inline

namespace Block

mutual

/-- What a node says in plain text, if it says anything. -/
def ofNode (ds : Markdown.Definitions) : Markdown.Node → List Block
  | .paragraph text => [.paragraph (Inline.ofSpans (Markdown.Span.read ds text))]
  | .heading text => [.paragraph (Inline.ofSpans (Markdown.Span.read ds text))]
  | .code text => [.code (Text.trimEnd (String.ofList text))]
  | .list start? items => [.list start?.isSome (ofItems ds items)]
  | .quote _ => []
  | .rule => []
  | .html => []
  | .blank => []

/-- What nodes say in plain text. -/
def ofNodes (ds : Markdown.Definitions) : List Markdown.Node → List Block
  | [] => []
  | n :: rest => ofNode ds n ++ ofNodes ds rest

/-- The items of a list. -/
def ofItems (ds : Markdown.Definitions) : List (List Markdown.Node) → List Block
  | [] => []
  | content :: rest => .item (ofNodes ds content) :: ofItems ds rest

end

/-- The blocks of a blurb. -/
def read (blurb : String) : List Block :=
  let (nodes, ds) := Markdown.Node.read blurb.toList
  ofNodes ds nodes

end Block

/-- The plain lines of a blurb. -/
def blurbLines (blurb : String) : List String := Block.linesOf "" (Block.read blurb)

end GrammarManual
