import GrammarManual.Text.Letter
import GrammarManual.Text.Quoted

/-!
# Text/Template: texts with placeholders

`Template.fill` puts arguments into the places of a text:

* a place is a percent sign, flags, a width, a precision and a letter, of which only the sign and
  the letter have to be there;
* `s` and `r` take any argument, `d`, `i` and `u` a number, `x`, `X` and `o` a number in another
  base, `c` a character; `%%` is a percent sign and takes none;
* the arguments have to match the places exactly.
-/

namespace GrammarManual

/-! ## 1. Arguments -/

/-- An argument for a place. -/
inductive Argument where
  | text (s : String)
  | number (n : Int)
  | truth (b : Bool)
  | nothing
  deriving DecidableEq, Repr, Inhabited

namespace Argument

/-- An argument as text. -/
def toText : Argument → String
  | .text s => s
  | .number n => toString n
  | .truth true => "True"
  | .truth false => "False"
  | .nothing => "None"

/-- An argument as it is written down: a text stands in quotation marks. -/
def toQuoted : Argument → String
  | .text s => Text.quoted s
  | a => a.toText

/-- An argument as a number; truth values count as one and zero. -/
def toNumber? : Argument → Option Int
  | .number n => some n
  | .truth b => some (if b then 1 else 0)
  | _ => none

end Argument

/-! ## 2. Places -/

/-- How an argument is written at its place. -/
structure Placeholder where
  /-- Filled up behind the text. -/
  leftAligned : Bool := false
  /-- Numbers are filled up with zeros. -/
  zeros : Bool := false
  /-- What stands before a number that is not negative. -/
  plus : List Char := []
  /-- Numbers name their base. -/
  named : Bool := false
  width : Nat := 0
  /-- The greatest length of a text, and the least number of digits. -/
  precision : Option Nat := none
  deriving DecidableEq, Repr, Inhabited

namespace Placeholder

/-- Fills a text up with blanks. -/
def pad (p : Placeholder) (s : List Char) : List Char :=
  let blanks := List.replicate (p.width - s.length) ' '
  if p.leftAligned then s ++ blanks else blanks ++ s

/-- A text at its place. -/
def text (p : Placeholder) (s : String) : List Char :=
  p.pad ((p.precision.map s.toList.take).getD s.toList)

/-- A number at its place: the sign, the name of the base, zeros and the digits. -/
def number (p : Placeholder) (n : Int) (base : Nat) (name : List Char) (large : Bool) :
    List Char :=
  let ds := Nat.toDigits base n.natAbs
  let ds := List.replicate (p.precision.getD 0 - ds.length) '0' ++ ds
  let before := (if n < 0 then ['-'] else p.plus) ++ (if p.named then name else [])
  let missing := p.width - (before.length + ds.length)
  let filled := before ++ (if p.zeros && !p.leftAligned then List.replicate missing '0' else []) ++ ds
  p.pad (if large then filled.map Char.toUpper else filled)

/-- An argument at its place, if it fits the letter. -/
def write? (p : Placeholder) (letter : Char) (a : Argument) : Option (List Char) :=
  match letter with
  | 's' => some (p.text a.toText)
  | 'r' => some (p.text a.toQuoted)
  | 'd' | 'i' | 'u' => a.toNumber?.map fun n => p.number n 10 [] false
  | 'x' => a.toNumber?.map fun n => p.number n 16 ['0', 'x'] false
  | 'X' => a.toNumber?.map fun n => p.number n 16 ['0', 'x'] true
  | 'o' => a.toNumber?.map fun n => p.number n 8 ['0', 'o'] false
  | 'c' =>
    match a with
    | .text s => if s.length = 1 then some (p.pad s.toList) else none
    | a =>
      a.toNumber?.bind fun n =>
        if 0 ≤ n ∧ n.toNat.isValidChar then some (p.pad [Char.ofNat n.toNat]) else none
  | _ => none

end Placeholder

/-! ## 3. Templates -/

namespace Template

/-- Reads flags. -/
def flags (p : Placeholder) : List Char → Placeholder × List Char
  | [] => (p, [])
  | c :: rest =>
    match c with
    | '-' => flags { p with leftAligned := true } rest
    | '0' => flags { p with zeros := true } rest
    | '+' => flags { p with plus := ['+'] } rest
    | ' ' => flags { p with plus := if p.plus = ['+'] then p.plus else [' '] } rest
    | '#' => flags { p with named := true } rest
    | _ => (p, c :: rest)

/-- Reads a number, which may be an argument; what is left of the text and of the arguments. -/
def count? (s : List Char) (args : List Argument) :
    Option (Option Int × List Char × List Argument) :=
  match s, args with
  | '*' :: rest, .number n :: args => some (some n, rest, args)
  | '*' :: _, _ => none
  | _, _ =>
    let ds := s.takeWhile Char.isDigit
    let n := ds.foldl (fun n c => 10 * n + Letter.decimalValue c) 0
    some (if ds.isEmpty then none else some (n : Int), s.drop ds.length, args)

/-- Reads a place behind its percent sign: how it is written, its letter, and what is left of the
    text and of the arguments. -/
def place? (s : List Char) (args : List Argument) :
    Option (Placeholder × Char × List Char × List Argument) := do
  let (p, s) := flags {} s
  let (width, s, args) ← count? s args
  let p := match width with
    | none => p
    | some n => { p with width := n.natAbs, leftAligned := p.leftAligned || n < 0 }
  let (p, s, args) ←
    match s with
    | '.' :: rest => do
      let (precision, s, args) ← count? rest args
      some ({ p with precision := some ((precision.getD 0).toNat) }, s, args)
    | _ => some (p, s, args)
  let s :=
    match s with
    | c :: rest => if c = 'h' ∨ c = 'l' ∨ c = 'L' then rest else s
    | [] => s
  match s with
  | letter :: rest => some (p, letter, rest, args)
  | [] => none

/-- Puts arguments into their places. `fuel` bounds the characters. -/
def fillWithin : Nat → List Char → List Argument → Option (List Char)
  | _, [], args => if args.isEmpty then some [] else none
  | 0, _, _ => none
  | fuel + 1, '%' :: '%' :: rest, args => (fillWithin fuel rest args).map ('%' :: ·)
  | fuel + 1, '%' :: rest, args => do
    let (p, letter, rest, args) ← place? rest args
    match args with
    | [] => none
    | a :: args =>
      let written ← p.write? letter a
      let more ← fillWithin fuel rest args
      some (written ++ more)
  | fuel + 1, c :: rest, args => (fillWithin fuel rest args).map (c :: ·)

/-- Puts arguments into the places of a text. -/
def fill (s : String) (args : List Argument) : Option String :=
  (fillWithin s.length s.toList args).map String.ofList

end Template

end GrammarManual
