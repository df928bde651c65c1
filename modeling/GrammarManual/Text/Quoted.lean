import GrammarManual.Text.Blank

/-!
# Text/Quoted: texts in quotation marks

`quoted` is how a message shows a text: in single marks, or in double ones if only single marks
occur in it; what is not visible is written by its number.
-/

namespace GrammarManual.Text

/-- A hexadecimal number with at least `width` digits. -/
def hexadecimal (width n : Nat) : List Char :=
  let ds := Nat.toDigits 16 n
  List.replicate (width - ds.length) '0' ++ ds

/-- A character by its number. -/
def numbered (c : Char) : List Char :=
  let n := c.toNat
  if n < 0x100 then '\\' :: 'x' :: hexadecimal 2 n
  else if n < 0x10000 then '\\' :: 'u' :: hexadecimal 4 n
  else '\\' :: 'U' :: hexadecimal 8 n

/-- Whether a character is not visible: control characters, white space other than a blank, and
    the soft hyphen. -/
def isHidden (c : Char) : Bool :=
  let n := c.toNat
  n < 0x20 || (0x7f ≤ n && n ≤ 0xa0) || n = 0xad || (isBlank c && c ≠ ' ')

/-- A character as it stands between quotation marks. -/
def quotedChar (mark c : Char) : List Char :=
  if c = mark ∨ c = '\\' then ['\\', c]
  else if c = '\n' then ['\\', 'n']
  else if c = '\r' then ['\\', 'r']
  else if c = '\t' then ['\\', 't']
  else if isHidden c then numbered c
  else [c]

/-- A text in quotation marks. -/
def quoted (s : String) : String :=
  let mark : Char := if s.contains '\'' && !s.contains '"' then '"' else '\''
  String.ofList (mark :: s.toList.flatMap (quotedChar mark) ++ [mark])

end GrammarManual.Text
