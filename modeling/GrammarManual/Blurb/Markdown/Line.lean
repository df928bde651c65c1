import GrammarManual.Text.Blank
import GrammarManual.Text.Letter

/-!
# Blurb/Markdown/Line: what a line begins

A text is a list of lines without their newlines. The functions here look at one line alone:

* `past?` is what follows an indentation;
* `widenTab` and `fillTab` turn a leading tab into blanks;
* `fence?`, `heading?`, `quoted?`, `listMark?` and their like say what the line would begin. Most
  take the deepest indentation they accept, which is three but inside of narrow list items.
-/

namespace GrammarManual.Markdown

/-- A line, without its newline. -/
abbrev Line := List Char

namespace Line

/-! ## 1. Indentation -/

/-- Blanks and tabs. -/
def isGap (c : Char) : Bool := c = ' ' || c = '\t'

/-- How many blanks a line begins with. -/
def indent (l : Line) : Nat := (l.takeWhile (· = ' ')).length

/-- What follows an indentation of at most `limit` blanks. -/
def past? (limit : Nat) (l : Line) : Option Line :=
  if l.indent ≤ limit then some (l.drop l.indent) else none

/-- The line without its first blanks, at most `limit` of them. -/
def outdent (limit : Nat) (l : Line) : Line := l.drop (min limit l.indent)

/-- A tab behind at most three blanks becomes blanks up to column `width`. -/
def widenTab (width : Nat) (l : Line) : Line :=
  match l.drop l.indent with
  | '\t' :: rest =>
    if l.indent ≤ 3 then List.replicate (max l.indent width) ' ' ++ rest else l
  | _ => l

/-- A tab behind at most three blanks becomes four blanks. -/
def fillTab (l : Line) : Line :=
  match l.drop l.indent with
  | '\t' :: rest => if l.indent ≤ 3 then List.replicate (l.indent + 4) ' ' ++ rest else l
  | _ => l

/-- Whether a line counts as blank. -/
def isEmptyLine (l : Line) : Bool := l.all fun c => isGap c || c = '\x0b' || c = '\x0c'

/-- Whether a line is indented like code. -/
def isIndented (l : Line) : Bool :=
  (4 ≤ l.indent && 4 < l.length) ||
    match l.drop l.indent with
    | '\t' :: _ :: _ => true
    | _ => false

/-- Whether a line, or what is left of it after some white space, is indented like code. -/
def isIndentedWithin (l : Line) : Bool :=
  (List.range ((l.takeWhile isBlank).length + 1)).any fun n => isIndented (l.drop n)

/-! ## 2. Code, headings and rules -/

/-- The line that opens a block of code. -/
structure Fence where
  indent : Nat
  mark : Char
  size : Nat
  info : Line
  deriving DecidableEq, Repr, Inhabited

/-- The fence a line opens: three marks or more. -/
def fence? (limit : Nat) (l : Line) : Option Fence :=
  match past? limit l with
  | some (c :: rest) =>
    let size := ((c :: rest).takeWhile (· = c)).length
    if (c = '\x60' || c = '~') && 3 ≤ size then
      some ⟨l.indent, c, size, ((c :: rest).drop size).dropWhile isGap⟩
    else none
  | _ => none

namespace Fence

/-- A fence of backticks may not have one in its info. -/
def isSound (f : Fence) : Bool := f.mark != '\x60' || !f.info.contains '\x60'

/-- Whether a line closes the block: as many marks at least, and nothing else. -/
def isClosedBy (f : Fence) (l : Line) : Bool :=
  match past? 3 l with
  | some rest =>
    let size := (rest.takeWhile (· = f.mark)).length
    f.size ≤ size && (rest.drop size).all isGap
  | none => false

end Fence

/-- Without the hash signs that close a heading, if white space or nothing stands before them. -/
def dropClosing (text : Line) : Line :=
  let body := Text.dropEndWhile isBlank text
  let before := Text.dropEndWhile (· = '#') body
  if before.length = body.length then text
  else
    match before.getLast? with
    | none => []
    | some c => if isBlank c then Text.dropEndWhile isBlank before else text

/-- Whether what follows a mark is set off from it. -/
def isSetOff : Line → Bool
  | [] => true
  | c :: _ => isGap c

/-- White space below 128. -/
def isPlainBlank (c : Char) : Bool := c = ' ' || (0x09 ≤ c.toNat && c.toNat ≤ 0x0d)

/-- The text of a heading behind one to six hash signs. -/
def heading? (limit : Nat) (l : Line) : Option Line :=
  match past? limit l with
  | some rest =>
    let size := (rest.takeWhile (· = '#')).length
    let text := rest.drop size
    if 1 ≤ size && size ≤ 6 && isSetOff text then
      some (dropClosing (Text.dropEndWhile isPlainBlank (text.dropWhile isPlainBlank)))
    else none
  | none => none

/-- Whether a line underlines the paragraph above it. -/
def isUnderline (l : Line) : Bool :=
  match past? 3 l with
  | some rest =>
    let size := (rest.takeWhile fun c => c = '=' || c = '-').length
    1 ≤ size && (rest.drop size).all isGap
  | none => false

/-- Whether a line is a rule: three marks or more of one kind. -/
def isRule (limit : Nat) (l : Line) : Bool :=
  match past? limit l with
  | some (c :: rest) =>
    (c = '-' || c = '_' || c = '*') && (c :: rest).all (fun d => d = c || isGap d)
      && 3 ≤ (c :: rest).count c
  | _ => false

/-! ## 3. Quotes and list items -/

/-- What follows the mark of a quote. -/
def quoted? (limit : Nat) (l : Line) : Option Line :=
  match past? limit l with
  | some ('>' :: rest) => some rest
  | _ => none

/-- The first line of a list item: the mark is a bullet, or a number with its bullet. -/
structure ListMark where
  indent : Nat
  number : Line
  bullet : Char
  text : Line
  deriving DecidableEq, Repr, Inhabited

namespace ListMark

/-- Whether the items are numbered. -/
def isOrdered (m : ListMark) : Bool := m.bullet = '.' || m.bullet = ')'

/-- The number before the bullet. -/
def value (m : ListMark) : Nat := m.number.foldl (fun n c => 10 * n + Letter.decimalValue c) 0

/-- Whether the number is one. -/
def isFirst (m : ListMark) : Bool := m.value = 1

/-- The number of the item, if it is numbered. -/
def number? (m : ListMark) : Option Nat := if m.isOrdered then some m.value else none

/-- The width of the indentation and the mark. -/
def width (m : ListMark) : Nat := m.indent + m.number.length + 1

end ListMark

/-- Bullets of lists without numbers. -/
def isPlainBullet (c : Char) : Bool := c = '*' || c = '+' || c = '-'

/-- The list item a line begins: a bullet, or up to nine digits with a full stop or a closing
    bracket. -/
def listMark? (limit : Nat) (l : Line) : Option ListMark :=
  match past? limit l with
  | some rest =>
    let number := rest.takeWhile Letter.isDecimal
    match rest.drop number.length with
    | c :: text =>
      let fits :=
        if number.isEmpty then isPlainBullet c
        else number.length ≤ 9 && (c = '.' || c = ')')
      if fits && isSetOff text then some ⟨l.indent, number, c, text⟩ else none
    | [] => none
  | none => none

/-- The further item a line begins in a list with this bullet. Here the digits may be missing. -/
def itemMark? (bullet : Char) (limit : Nat) (l : Line) : Option ListMark :=
  match past? limit l with
  | some rest =>
    let number := if isPlainBullet bullet then [] else rest.takeWhile Letter.isDecimal
    match rest.drop number.length with
    | c :: text =>
      if c = bullet && number.length ≤ 9 && isSetOff text then some ⟨l.indent, number, c, text⟩
      else none
    | [] => none
  | none => none

end Line

end GrammarManual.Markdown
