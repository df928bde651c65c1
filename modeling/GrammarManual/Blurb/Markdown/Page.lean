import GrammarManual.Blurb.Markdown.Html
import GrammarManual.Blurb.Markdown.Link
import GrammarManual.Text.Lines

/-!
# Blurb/Markdown/Page: blocks without blocks inside

`Page` is what has been read of a text. The readers here take the line a block begins with and the
lines below it; they give the page with the block added and the lines that are left, or none if the
line is text of a paragraph after all.
-/

namespace GrammarManual.Markdown

/-- What has been read of a text. -/
structure Page where
  /-- The blocks, the last first. -/
  nodes : List Node := []
  definitions : Definitions := []
  deriving Repr, Inhabited

/-- What reading a block comes to: the page with the block, and the lines that are left. -/
abbrev Step := Option (Page × List Line)

namespace Page

/-- Adds a block. -/
def add (p : Page) (n : Node) : Page := { p with nodes := n :: p.nodes }

/-- Adds a line to the paragraph under way, or begins one with it. -/
def addText (p : Page) (l : Line) : Page :=
  match p.nodes with
  | .paragraph text :: before => { p with nodes := .paragraph (text ++ l ++ ['\n']) :: before }
  | _ => p.add (.paragraph (l ++ ['\n']))

/-- Whether a paragraph is under way. -/
def inParagraph (p : Page) : Bool :=
  match p.nodes with
  | .paragraph _ :: _ => true
  | _ => false

/-- Adds a block before the last one. -/
def addBefore (p : Page) (n : Node) : Page :=
  match p.nodes with
  | last :: before => { p with nodes := last :: n :: before }
  | [] => p.add n

/-- Adds a block behind the first `count` ones. -/
def insert (p : Page) (count : Nat) (n : Node) : Page :=
  let later := p.nodes.length - count
  { p with nodes := p.nodes.take later ++ n :: p.nodes.drop later }

/-- The lines of a text of lines, with a newline behind each. -/
def join (ls : List Line) : List Char := ls.flatMap (· ++ ['\n'])

/-! ## 1. Code -/

/-- Reads code between fences; without a closing fence it goes on to the end. -/
def fenced (p : Page) (f : Line.Fence) (rest : List Line) : Step :=
  if f.isSound then
    let body := rest.takeWhile (!f.isClosedBy ·)
    some (p.add (.code (join (body.map (Line.outdent f.indent)))), rest.drop (body.length + 1))
  else none

/-- Whether a line belongs to code by its indentation, or is blank. -/
def continuesCode (l : Line) : Bool := l.isIndentedWithin || l.all isBlank

/-- Reads code by its indentation. A line after it that begins with white space is text. -/
def indented (p : Page) (l : Line) (rest : List Line) : Page × List Line :=
  if p.inParagraph then (p.addText l, rest)
  else
    let body := l :: rest.takeWhile continuesCode
    let lines := body.map fun b => Line.outdent 4 (Line.widenTab 4 b)
    let page := p.add (.code (join lines))
    match rest.drop (body.length - 1) with
    | next :: more =>
      let text := next.dropWhile isBlank
      if text.length = next.length then (page, next :: more) else (page.addText text, more)
    | [] => (page, [])

/-! ## 2. Definitions -/

/-- Reads the definition of a link. -/
def defined (p : Page) (l : Line) (rest : List Line) : Step :=
  match l.dropWhile (· = ' ') with
  | '[' :: inside =>
    let source := inside ++ '\n' :: join rest
    match Link.definition? source with
    | some (key, url, after) =>
      let lines := Text.newlines (source.take (source.length - after.length))
      some ({ p with definitions := p.definitions.define key url }, rest.drop (lines - 1))
    | none => none
  | _ => none

/-- Whether a line, with the lines below, begins with a label and a colon. -/
def seemsDefined (l : Line) (rest : List Line) : Bool :=
  match Line.past? 3 l with
  | some ('[' :: inside) =>
    match Link.label? (inside ++ '\n' :: join rest) with
    | some (_, ':' :: _) => true
    | _ => false
  | _ => false

/-! ## 3. HTML -/

/-- Reads a block of HTML; `after` is what follows its opening on the first line. -/
def html (p : Page) (l : Line) (o : Html.Opening) (after : Option Line) (rest : List Line) : Step :=
  match o.blockEnd? with
  | some (.mark text) =>
    let holds (l : Line) : Bool := (Html.afterFirst? text l).isSome
    if holds (after.getD []) then some (p.add .html, rest)
    else some (p.add .html, (rest.dropWhile (!holds ·)).drop 1)
  | some .emptyLine => some (p.add .html, rest.dropWhile (!·.isEmptyLine))
  | none =>
    if p.inParagraph then some (p.addText l, rest)
    else if (after.map o.fillsLine).getD false then
      some (p.add .html, rest.dropWhile (!·.isEmptyLine))
    else none

end Page

end GrammarManual.Markdown
