import GrammarManual.Text.EntityName

/-!
# Text/Entity: character references

`Entity.resolve` replaces the references `&name;`, `&#10;` and `&#x0a;` in a text by the characters
they stand for. Some old names may go without their semicolon, and so may numbers.
-/

namespace GrammarManual.Entity

/-- What a name stands for. -/
def ofName (name : String) : Option (List Char) :=
  match EntityName.single.lookup name, EntityName.double.lookup name with
  | some n, _ => some [Char.ofNat n]
  | none, some (n, m) => some [Char.ofNat n, Char.ofNat m]
  | none, none => none

/-- Code points that a number stands for in place of the one it writes. -/
def replaced : List (Nat × Nat) :=
  [(0x00, 0xfffd), (0x0d, 0x0d), (0x80, 0x20ac), (0x81, 0x81), (0x82, 0x201a), (0x83, 0x0192),
   (0x84, 0x201e), (0x85, 0x2026), (0x86, 0x2020), (0x87, 0x2021), (0x88, 0x02c6), (0x89, 0x2030),
   (0x8a, 0x0160), (0x8b, 0x2039), (0x8c, 0x0152), (0x8d, 0x8d), (0x8e, 0x017d), (0x8f, 0x8f),
   (0x90, 0x90), (0x91, 0x2018), (0x92, 0x2019), (0x93, 0x201c), (0x94, 0x201d), (0x95, 0x2022),
   (0x96, 0x2013), (0x97, 0x2014), (0x98, 0x02dc), (0x99, 0x2122), (0x9a, 0x0161), (0x9b, 0x203a),
   (0x9c, 0x0153), (0x9d, 0x9d), (0x9e, 0x017e), (0x9f, 0x0178)]

/-- Whether a number stands for nothing: control characters and places that hold no character. -/
def isVoid (n : Nat) : Bool :=
  (1 ≤ n && n ≤ 8) || (0x0e ≤ n && n ≤ 0x1f) || (0x7f ≤ n && n ≤ 0x9f) || n == 0x0b
    || (0xfdd0 ≤ n && n ≤ 0xfdef) || n % 0x10000 == 0xfffe || n % 0x10000 == 0xffff

/-- What a number stands for. -/
def ofNumber (n : Nat) : List Char :=
  match replaced.lookup n with
  | some m => [Char.ofNat m]
  | none =>
    if (0xd800 ≤ n ∧ n ≤ 0xdfff) ∨ 0x10ffff < n then [Char.ofNat 0xfffd]
    else if isVoid n then []
    else [Char.ofNat n]

/-- The value of a digit. -/
def digit (c : Char) : Nat :=
  if c.isDigit then c.toNat - 0x30 else if c.isLower then c.toNat - 0x57 else c.toNat - 0x37

/-- Whether a character is a hexadecimal digit. -/
def isHex (c : Char) : Bool := c.isDigit || ('a' ≤ c && c ≤ 'f') || ('A' ≤ c && c ≤ 'F')

/-- A number in a base. -/
def number (base : Nat) (digits : List Char) : Nat :=
  digits.foldl (fun n c => n * base + digit c) 0

/-- Drops a semicolon at the front. -/
def dropSemicolon : List Char → List Char
  | ';' :: rest => rest
  | rest => rest

/-- The reference by number behind `&#`, and what follows it. -/
def numeric? (s : List Char) : Option (List Char × List Char) :=
  let decimal := s.takeWhile Char.isDigit
  match s with
  | x :: rest =>
    if x = 'x' ∨ x = 'X' then
      let hex := rest.takeWhile isHex
      if hex.isEmpty then none
      else some (ofNumber (number 16 hex), dropSemicolon (rest.drop hex.length))
    else if decimal.isEmpty then none
    else some (ofNumber (number 10 decimal), dropSemicolon (s.drop decimal.length))
  | [] => none

/-- What the longest old name at the front of a word stands for, and its length, which is at most
    the number given. -/
def longestOld (word : List Char) : Nat → Option (List Char × Nat)
  | 0 => none
  | n + 1 =>
    let name := String.ofList (word.take (n + 1))
    if EntityName.old.contains name then (ofName name).map fun cs => (cs, n + 1)
    else longestOld word n

/-- The reference by name behind `&`, and what follows it. -/
def named? (s : List Char) : Option (List Char × List Char) :=
  let word := (s.take 32).takeWhile fun c =>
    !(c = '\t' || c = '\n' || c = '\x0c' || c = ' ' || c = '<' || c = '&' || c = '#' || c = ';')
  match s.drop word.length, ofName (String.ofList word) with
  | ';' :: rest, some cs => some (cs, rest)
  | _, _ => (longestOld word word.length).map fun (cs, n) => (cs, s.drop n)

/-- Replaces references; `fuel` bounds the characters. -/
def resolveUpTo : Nat → List Char → List Char
  | 0, s => s
  | _, [] => []
  | fuel + 1, '&' :: '#' :: rest =>
    match numeric? rest with
    | some (cs, rest') => cs ++ resolveUpTo fuel rest'
    | none => '&' :: '#' :: resolveUpTo fuel rest
  | fuel + 1, '&' :: rest =>
    match named? rest with
    | some (cs, rest') => cs ++ resolveUpTo fuel rest'
    | none => '&' :: resolveUpTo fuel rest
  | fuel + 1, c :: rest => c :: resolveUpTo fuel rest

/-- Replaces the references of a text. -/
def resolve (s : List Char) : List Char := resolveUpTo s.length s

end GrammarManual.Entity
