/-!
# Yaml/Cursor: a place in a YAML text

A `Cursor` is what is left of a text, with the line and the column it begins at, both counted from
zero. A byte order mark takes no column.
-/

namespace GrammarManual.Yaml

/-- What ends a line: a newline and the line ends of Unicode. -/
def isBreak (c : Char) : Bool :=
  c = '\n' || c = '\r' || c.toNat = 0x85 || c.toNat = 0x2028 || c.toNat = 0x2029

/-- Blanks and tabs. -/
def isGap (c : Char) : Bool := c = ' ' || c = '\t'

/-- Characters of the names of anchors, handles and directives. -/
def isName (c : Char) : Bool := c.isAlphanum || c = '-' || c = '_'

/-- Whether a line ends here. -/
def endsLine (s : List Char) : Bool := (s.head?.map isBreak).getD true

/-- Whether a line ends here or a blank follows. -/
def endsName (s : List Char) : Bool := (s.head?.map fun c => isBreak c || c = ' ').getD true

/-- Whether a line ends here or white space follows. -/
def endsWord (s : List Char) : Bool := (s.head?.map fun c => isBreak c || isGap c).getD true

/-- Characters a YAML text may hold. -/
def isPrintable (c : Char) : Bool :=
  let n := c.toNat
  n = 0x09 || n = 0x0a || n = 0x0d || (0x20 ≤ n && n ≤ 0x7e) || n = 0x85
    || (0xa0 ≤ n && n ≤ 0xfffd) || 0x10000 ≤ n

/-- A place in a text. -/
structure Cursor where
  rest : List Char
  index : Nat := 0
  line : Nat := 0
  column : Nat := 0
  deriving Repr, Inhabited

namespace Cursor

/-- The place after the next character. -/
def next (c : Cursor) : Cursor :=
  match c.rest with
  | [] => c
  | x :: rest =>
    if isBreak x then { rest, index := c.index + 1, line := c.line + 1, column := 0 }
    else
      { rest, index := c.index + 1, line := c.line,
        column := if x = '\ufeff' then c.column else c.column + 1 }

/-- The place after the next characters. -/
def drop : Nat → Cursor → Cursor
  | 0, c => c
  | n + 1, c => drop n c.next

/-- The place after all characters that satisfy `p`. -/
def dropWhile (p : Char → Bool) (c : Cursor) : Cursor := c.drop (c.rest.takeWhile p).length

/-- The line end at a place, as it is kept in texts, and the place behind it. -/
def lineBreak? (c : Cursor) : Option (Char × Cursor) :=
  match c.rest with
  | x :: _ =>
    if isBreak x then some (if x.toNat < 0x100 then '\n' else x, c.next) else none
  | [] => none

/-- Whether a mark of three characters that sets documents apart begins at a place. -/
def isAtMark (mark : Char) (c : Cursor) : Bool :=
  c.rest.take 3 = [mark, mark, mark] && endsWord (c.rest.drop 3)

/-- Whether documents are set apart at a place. -/
def isAtBorder (c : Cursor) : Bool := c.isAtMark '-' || c.isAtMark '.'

end Cursor

end GrammarManual.Yaml
