import GrammarManual.Text.Blank
import GrammarManual.Text.Case

/-!
# Blurb/Markdown/Tree: a Markdown text as a tree

`Node` is a block of the text, `Span` a part of a paragraph. Paragraphs and headings keep their
text as it is written, since the links a text defines (`Definitions`) may stand below their use;
the spans are read once all definitions are known.
-/

namespace GrammarManual.Markdown

/-- A part of a paragraph. -/
inductive Span where
  | text (s : List Char)
  | code (s : List Char)
  | emphasis (content : List Span)
  | link (url : List Char) (label : List Span)
  | image (label : List Span)
  | html
  | lineBreak
  deriving Repr, Inhabited

/-- A block of a text. -/
inductive Node where
  | paragraph (text : List Char)
  | heading (text : List Char)
  | code (text : List Char)
  /-- A list with the contents of its items, and the number of the first if they are numbered. -/
  | list (start? : Option Nat) (items : List (List Node))
  | quote (content : List Node)
  | rule
  | html
  | blank
  deriving Repr, Inhabited

/-- The links a text defines: where each key leads. -/
abbrev Definitions := List (List Char × List Char)

namespace Definitions

/-- The words of a text. -/
def words (s : List Char) : List (List Char) :=
  s.foldr
    (fun c ws =>
      if isBlank c then [] :: ws
      else
        match ws with
        | [] => [[c]]
        | w :: rest => (c :: w) :: rest)
    [[]]
    |>.filter (!·.isEmpty)

/-- What a label is looked up by: neither case nor the amount of white space matters. -/
def key (label : List Char) : List Char :=
  (List.intercalate [' '] (words label)).flatMap fun c => (Case.fold c.toNat).map Char.ofNat

/-- Defines a link, unless there is one of that key. -/
def define (ds : Definitions) (key url : List Char) : Definitions :=
  if ds.any (·.1 == key) then ds else ds ++ [(key, url)]

end Definitions

end GrammarManual.Markdown
