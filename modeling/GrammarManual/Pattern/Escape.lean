import GrammarManual.Pattern.Token

/-!
# Pattern/Escape: escapes and character classes

A backslash and a letter stand for a class of characters, a place, a control character, or they
begin the number of a character; a backslash and a digit refer to a group or are an octal number.
Before anything but a letter or a digit a backslash does nothing. Classes in brackets know fewer
escapes.
-/

namespace GrammarManual.PatternReader

/-! ## 1. Parts of a sequence -/

/-- A part of a sequence, and what a suffix behind it has to know. -/
inductive Item where
  | ordinary (r : Regex)
  /-- A place such as `^`: nothing to repeat. -/
  | anchor (p : Anchor)
  /-- A repetition: not to be repeated again. -/
  | repetition (r : Regex)

/-- The expression that is a part. -/
def Item.regex : Item → Regex
  | .ordinary r => r
  | .anchor p => .anchor p
  | .repetition r => r

/-- The sequence of some parts, given last first. -/
def sequenceOf (items : List Item) : Regex :=
  items.foldl (fun r item => .seq item.regex r) .empty

/-- One character of a class item. -/
def ofClassItem (item : ClassItem) : Reader Item :=
  return .ordinary (.chars (← lettering) false [item])

/-- The character of a code point. -/
def ofCodePoint (n : Nat) : Reader Item := ofClassItem (.range n n)

/-! ## 2. Numbers -/

/-- The value of a digit in a base up to 16. -/
def digitValue (c : Char) : Nat :=
  if c.isDigit then c.toNat - '0'.toNat
  else if 'a' ≤ c ∧ c ≤ 'f' then c.toNat - 'a'.toNat + 10
  else c.toNat - 'A'.toNat + 10

/-- The number written by digits. -/
def numeral (base : Nat) (digits : List Char) : Nat :=
  digits.foldl (fun n c => n * base + digitValue c) 0

def isHex (c : Char) : Bool := c.isDigit || ('a' ≤ c && c ≤ 'f') || ('A' ≤ c && c ≤ 'F')

def isOctal (c : Char) : Bool := '0' ≤ c && c ≤ '7'

/-- Reads a code point of so many hexadecimal digits. -/
def readHex (letter : Char) (count : Nat) : Reader Nat := do
  let digits ← takeUpTo isHex count
  let text := String.ofList ('\\' :: letter :: digits)
  if digits.length ≠ count then refuse (.incompleteEscape text) text.length
  else if 0x110000 ≤ numeral 16 digits then refuse (.badEscape text) text.length
  else return numeral 16 digits

/-- The code point of octal digits. -/
def ofOctal (digits : List Char) : Reader Nat := do
  let text := String.ofList ('\\' :: digits)
  if 0o377 < numeral 8 digits then refuse (.octalRange text) text.length
  else return numeral 8 digits

/-! ## 3. Escapes -/

/-- The classes that an escape may stand for. -/
def classEscape? : Char → Option ClassItem
  | 'w' => some (.word false)
  | 'W' => some (.word true)
  | 's' => some (.blank false)
  | 'S' => some (.blank true)
  | 'd' => some (.decimal false)
  | 'D' => some (.decimal true)
  | _ => none

/-- The control characters that an escape may stand for, and the backslash. -/
def controlEscape? : Char → Option Nat
  | 'a' => some 0x07
  | 'b' => some 0x08
  | 'f' => some 0x0c
  | 'n' => some 0x0a
  | 'r' => some 0x0d
  | 't' => some 0x09
  | 'v' => some 0x0b
  | '\\' => some 0x5c
  | _ => none

/-- The places that an escape may stand for. -/
def anchorEscape? (l : Lettering) : Char → Option Anchor
  | 'A' => some .start
  | 'Z' => some .stop
  | 'b' => some (.boundary l false)
  | 'B' => some (.boundary l true)
  | _ => none

/-- Reads an escape that stands for one character, in or outside a class. -/
def readCharEscape (c : Char) : Reader Nat :=
  match c with
  | 'x' => readHex c 2
  | 'u' => readHex c 4
  | 'U' => readHex c 8
  | 'N' => do
    if !(← accept '{') then refuse .noBrace
    let name ← readName '}' "character name"
    -- the names of characters are no part of the reader
    refuse (.unsupported ("\\N\x7b" ++ name ++ "\x7d")) (name.length + 4)
  | _ => do
    if c.isAlphanum then refuse (.badEscape (String.ofList ['\\', c])) 2
    else return c.toNat

/-- Reads an escape inside a class. -/
def readClassEscape (c : Char) : Reader ClassItem := do
  match classEscape? c with
  | some item => return item
  | none =>
    let n ←
      match controlEscape? c with
      | some n => pure n
      | none =>
        if isOctal c then ofOctal (c :: (← takeUpTo isOctal 2)) else readCharEscape c
    return .range n n

/-- The group of a number, taken up again. -/
def readReference (digits : List Char) : Reader Item := do
  let index := numeral 10 digits
  if index < (← get).groups then
    let width ← referTo index (digits.length + 1)
    return .ordinary (.again (← lettering) index width)
  else refuse (.badReference index) digits.length

/-- Reads an escape that begins with a digit: three octal digits, or the number of a group. -/
def readNumber (c : Char) : Reader Item := do
  if c = '0' then ofCodePoint (← ofOctal (c :: (← takeUpTo isOctal 2)))
  else
    match ← takeUpTo Char.isDigit 1 with
    | [d] =>
      if isOctal c && isOctal d then
        match ← takeUpTo isOctal 1 with
        | [e] => ofCodePoint (← ofOctal [c, d, e])
        | _ => readReference [c, d]
      else readReference [c, d]
    | _ => readReference [c]

/-- Reads an escape outside a class. -/
def readEscape (c : Char) : Reader Item := do
  match anchorEscape? (← lettering) c, classEscape? c, controlEscape? c with
  | some p, _, _ => return .anchor p
  | none, some item, _ => ofClassItem item
  | none, none, some n => ofCodePoint n
  | none, none, none =>
    if c.isDigit then readNumber c else ofCodePoint (← readCharEscape c)

/-! ## 4. Classes -/

/-- A class item that is one character, if it is one. -/
def single? : ClassItem → Option Nat
  | .range a b => if a = b then some a else none
  | _ => none

/-- Reads what one token of a class begins. -/
def readMember (t : Token) : Reader ClassItem :=
  match t with
  | .plain c => return .range c.toNat c.toNat
  | .escaped c => readClassEscape c
  | .dangling => refuse .danglingEscape

/-- Reads the items of a class up to its `]`; `start` is the place of the `[`, `n` bounds the
    tokens. -/
def readItems (start : Nat) : Nat → List ClassItem → Reader (List ClassItem)
  | 0, _ => refuseAt .openClass start
  | n + 1, items => do
    match ← next with
    | none => refuseAt .openClass start
    | some t =>
      if t = .plain ']' ∧ items ≠ [] then return items
      let item ← readMember t
      if ← accept '-' then
        match ← next with
        | none => refuseAt .openClass start
        | some (.plain ']') => return .range '-'.toNat '-'.toNat :: item :: items
        | some u =>
          let last ← readMember u
          let bad : Reader (List ClassItem) :=
            refuse (.badRange t.text u.text) (t.width + 1 + u.width)
          match single? item, single? last with
          | some a, some b => if b < a then bad else readItems start n (.range a b :: items)
          | _, _ => bad
      else readItems start n (item :: items)

/-- Reads a class behind its `[`. -/
def readClass : Reader Item := do
  let start := (← get).position - 1
  let negated ← accept '^'
  let items ← readItems start ((← get).ahead.length + 1) []
  return .ordinary (.chars (← lettering) negated items)

end GrammarManual.PatternReader
