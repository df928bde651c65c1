import GrammarManual.Blurb.Markdown.Emphasis
import GrammarManual.Blurb.Markdown.Html
import GrammarManual.Blurb.Markdown.Link

/-!
# Blurb/Markdown/Spans: the parts of a paragraph

`Span.read` reads the text of a paragraph from left to right: escapes, code, emphasis, links,
images, addresses and tags in angle brackets, line breaks. A mark that begins nothing is text. The
text of a link or an image is read in the same way, but that of a link holds no further link.
-/

namespace GrammarManual.Markdown

/-! ## 1. Code -/

/-- The code up to a run of exactly `size` backticks, and what follows. `seen` backticks stand just
    before, `taken` is what was passed, the last first. -/
def closeCode (size seen : Nat) (taken : List Char) :
    List Char → Option (List Char × List Char)
  | [] => if seen = size then some ((taken.drop size).reverse, []) else none
  | c :: rest =>
    if c = '\x60' then closeCode size (seen + 1) (c :: taken) rest
    else if seen = size then some ((taken.drop size).reverse, c :: rest)
    else closeCode size 0 (c :: taken) rest

/-- Code as it is shown: on one line, and without a blank at both ends. -/
def codeText (s : List Char) : List Char :=
  let flat := s.map fun c => if c = '\n' then ' ' else c
  if !flat.all isBlank && flat.head? = some ' ' && flat.getLast? = some ' ' then
    (flat.drop 1).dropLast
  else flat

/-- The code at the front of a text, and what follows. -/
def code? (s : List Char) : Option (Span × List Char) :=
  let size := (s.takeWhile (· = '\x60')).length
  if size = 0 then none
  else (closeCode size 0 [] (s.drop size)).map fun (code, rest) => (.code (codeText code), rest)

/-! ## 2. Angle brackets -/

/-- The link to an address in angle brackets. In the text of a link it is no link. -/
def addressSpan (inLink : Bool) (url shown : List Char) : Span :=
  if inLink then .text ('<' :: shown ++ ['>']) else .link (Link.encode url) [.text shown]

/-- The address or the piece of HTML at the front of a text, whether the text behind it is that of
    a link, and what follows. -/
def angled? (inLink : Bool) (s : List Char) : Option (Span × Bool × List Char) :=
  match Html.autolink? s, Html.mail? s, Html.inline? s with
  | some (url, rest), _, _ => some (addressSpan inLink url url, inLink, rest)
  | none, some (user, rest), _ =>
    some (addressSpan inLink ("mailto:".toList ++ user) user, inLink, rest)
  | none, none, some (o, rest) => some (.html, (Html.linkBracket? s o).getD inLink, rest)
  | none, none, none => none

/-- Whether an address with a scheme seems to begin within `room` characters. -/
def seemsAddress (room : Nat) (s : List Char) : Bool :=
  match s.take room with
  | '<' :: c :: rest =>
    let scheme := rest.takeWhile fun d => d.isAlphanum || d = '.' || d = '+' || d = '-'
    c.isAlpha && 1 ≤ scheme.length && scheme.length ≤ 31
      && (rest.drop scheme.length).head? = some ':'
  | _ => false

/-- The first code or piece in angle brackets that begins within `room` characters: how many
    characters stand before it, and what it is. A mark that only seems to begin one ends the
    search. -/
def firstWithin? (inLink : Bool) (before : Nat) :
    Nat → List Char → Option (Nat × Span × List Char)
  | 0, _ => none
  | _, [] => none
  | room + 1, c :: rest =>
    if c = '\x60' then (code? (c :: rest)).map fun (s, after) => (before, s, after)
    else if seemsAddress (room + 1) (c :: rest) then
      (Html.autolink? (c :: rest)).map fun (url, after) =>
        (before, addressSpan inLink url url, after)
    else if (Html.opening? ((c :: rest).take (room + 1))).isSome then
      (Html.inline? (c :: rest)).map fun (_, after) => (before, .html, after)
    else firstWithin? inLink (before + 1) room rest

/-! ## 3. Links -/

/-- What an opening bracket begins. -/
inductive Bracket where
  /-- A link or an image. -/
  | link (url label rest : List Char)
  /-- Nothing: a code or a piece in angle brackets begins before the label ends and goes on
      beyond it. -/
  | crossed (before : Nat) (span : Span) (rest : List Char)
  deriving Repr, Inhabited

/-- The link of a label, if it is defined. -/
def defined? (ds : Definitions) (label text rest : List Char) : Option Bracket :=
  (ds.lookup (Definitions.key label)).map fun url => .link url text rest

/-- What the text behind an opening bracket makes of it. -/
def bracket? (ds : Definitions) (inLink : Bool) (s : List Char) : Option Bracket :=
  let label := Link.label? s
  match label.orElse fun _ => Link.balanced? 1 0 s with
  | none => none
  | some (text, after) =>
    if after.isEmpty && label.isNone then none
    else
      let direct : Option Bracket :=
        match after with
        | '(' :: inside =>
          match Link.destination? inside with
          | some (url, rest) => some (.link url text rest)
          | none => label.bind fun (l, _) => defined? ds l text after
        | '[' :: inside =>
          match Link.label? inside with
          | some ([], rest) => label.bind fun (l, _) => defined? ds l text rest
          | some (l, rest) => defined? ds l text rest
          | none => label.bind fun (l, _) => defined? ds l text after
        | _ => label.bind fun (l, _) => defined? ds l text after
      match firstWithin? inLink 0 (s.length - after.length) s with
      | some (before, span, rest) =>
        if rest.length ≤ after.length then some (.crossed before span rest) else direct
      | none => direct

/-! ## 4. Paragraphs -/

/-- A paragraph under way. -/
structure Reading where
  inLink : Bool := false
  /-- The character just before. -/
  last : Option Char := none
  /-- Text that is not a piece yet, the last character first. -/
  pending : List Char := []
  /-- The pieces, the last first. -/
  pieces : List Piece := []
  deriving Repr, Inhabited

namespace Reading

/-- Takes characters as text. -/
def keep (r : Reading) (s : List Char) : Reading :=
  { r with last := s.getLast?.orElse fun _ => r.last, pending := s.reverse ++ r.pending }

/-- Makes a piece of the pending text. -/
def flush (r : Reading) : Reading :=
  if r.pending.isEmpty then r
  else { r with pending := [], pieces := .span (.text r.pending.reverse) :: r.pieces }

/-- Adds a span that was written as `source`. -/
def add (r : Reading) (source : List Char) (s : Span) : Reading :=
  { r.flush with last := source.getLast?, pieces := .span s :: r.flush.pieces }

/-- Adds a run of a mark with its neighbour. -/
def addRun (r : Reading) (mark : Char) (size : Nat) (next : Option Char) : Reading :=
  let run := Run.between mark size r.last next
  { r.flush with last := some mark, pieces := Piece.close size run r.flush.pieces }

/-- The spans of a paragraph that is read to its end. -/
def toSpans (r : Reading) : List Span := Piece.toSpans r.flush.pieces

end Reading

/-- How much of `s` stands before `rest`. -/
def front (s rest : List Char) : List Char := s.take (s.length - rest.length)

/-- The escaped punctuation at the front of a text. -/
def escaped : List Char → List Char
  | '\\' :: c :: rest => if isAsciiPunctuation c then c :: escaped rest else []
  | _ => []

/-- What follows a line break at the front of a text. -/
def lineBreak? (s : List Char) : Option (List Char) :=
  let tail := match s with
    | '\\' :: rest => rest
    | _ => s.dropWhile (· = ' ')
  match tail with
  | '\n' :: rest => some (rest.dropWhile isBlank)
  | _ => none

/-- Reads a text; `fuel` bounds its characters. -/
def readSpans (ds : Definitions) : Nat → Reading → List Char → Reading
  | 0, r, s => r.keep s
  | _, r, [] => r
  | fuel + 1, r, c :: rest =>
    let s := c :: rest
    match c with
    | '\\' =>
      let marks := escaped s
      if marks.isEmpty then
        match lineBreak? s with
        | some after => readSpans ds fuel (r.add (front s after) .lineBreak) after
        | none => readSpans ds fuel (r.keep [c]) rest
      else
        let after := s.drop (2 * marks.length)
        readSpans ds fuel (r.add (front s after) (.text marks)) after
    | '\x60' =>
      match code? s with
      | some (span, after) => readSpans ds fuel (r.add (front s after) span) after
      | none =>
        let marks := s.takeWhile (· = c)
        readSpans ds fuel (r.keep marks) (s.drop marks.length)
    | '*' | '_' =>
      let size := (s.takeWhile (· = c)).length
      let after := s.drop size
      readSpans ds fuel (r.addRun c size after.head?) after
    | '!' | '[' =>
      let inside : Option (List Char) :=
        match c, rest with
        | '!', '[' :: inside => some inside
        | '[', _ => if r.inLink then none else some rest
        | _, _ => none
      match inside.bind (bracket? ds r.inLink) with
      | some (.link url label after) =>
        let span : Span :=
          let content := (readSpans ds fuel { inLink := c = '[' || r.inLink } label).toSpans
          if c = '!' then .image content else .link url content
        readSpans ds fuel (r.add (front s after) span) after
      | some (.crossed before span after) =>
        let lead := if c = '!' then 2 + before else 1 + before
        readSpans ds fuel ((r.add (s.take lead) (.text (s.take lead))).add (front s after) span) after
      | none => readSpans ds fuel (r.keep [c]) rest
    | '<' =>
      match angled? r.inLink s with
      | some (span, inLink, after) =>
        readSpans ds fuel { r.add (front s after) span with inLink } after
      | none => readSpans ds fuel (r.keep [c]) rest
    | ' ' | '\n' =>
      match lineBreak? s with
      | some after => readSpans ds fuel (r.add (front s after) .lineBreak) after
      | none => readSpans ds fuel (r.keep [c]) rest
    | _ => readSpans ds fuel (r.keep [c]) rest

namespace Span

/-- What is trimmed from the ends of a paragraph. -/
def isMargin (c : Char) : Bool := c = ' ' || c = '\r' || c = '\n' || c = '\t' || c = '\x0c'

/-- The spans of the text of a paragraph. A paragraph without text has one empty span. -/
def read (ds : Definitions) (text : List Char) : List Span :=
  let s := Text.dropEndWhile isMargin (text.dropWhile isMargin)
  if s.isEmpty then [.text []] else (readSpans ds (s.length + 1) {} s).toSpans

end Span

end GrammarManual.Markdown
