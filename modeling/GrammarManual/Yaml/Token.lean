import GrammarManual.Text.Utf8
import GrammarManual.Yaml.Scalar

/-!
# Yaml/Token: the tokens of a YAML text

Indentation and keys become tokens of their own: a block of entries begins with
`blockSequenceStart` or `blockMappingStart` and ends with `blockEnd`, and `key` stands before every
key. Only the colon behind it tells that something was a key, so the reader notes where a key may
have begun (`PendingKey`) and puts the tokens in when the colon comes. Such a key has to lie on one
line and may not be longer than 1024 characters.
-/

namespace GrammarManual.Yaml

/-! ## 1. Tokens -/

/-- A line for the reader of a text. -/
inductive Directive where
  | version (major : Nat)
  | handle (name target : List Char)
  | other
  deriving DecidableEq, Repr, Inhabited

/-- A token. -/
inductive Token where
  | directive (d : Directive)
  | documentStart
  | documentEnd
  | blockSequenceStart
  | blockMappingStart
  | blockEnd
  | sequenceOpen
  | sequenceClose
  | mappingOpen
  | mappingClose
  | blockEntry
  | comma
  | key
  | value
  | alias (name : List Char)
  | anchor (name : List Char)
  /-- The handle of a tag, if it has one, and what follows the handle. -/
  | tag (handle : Option (List Char)) (name : List Char)
  | text (isPlain : Bool) (s : List Char)
  deriving DecidableEq, Repr, Inhabited

/-! ## 2. Names -/

/-- What may stand behind the name of an anchor. -/
def endsAnchor (s : List Char) : Bool :=
  endsWord s || (s.head?.map ['?', ':', ',', ']', '}', '%', '@', '\x60'].contains).getD false

/-- The name behind the sign of an anchor or an alias. -/
def anchorName? (c : Cursor) : Option (List Char × Cursor) :=
  let name := c.rest.takeWhile isName
  let c1 := c.drop name.length
  if name.isEmpty || !endsAnchor c1.rest then none else some (name, c1)

/-- The handle of a tag: an exclamation mark, or a name between two of them. -/
def handle? (c : Cursor) : Option (List Char × Cursor) :=
  match c.rest with
  | '!' :: rest =>
    let name := rest.takeWhile isName
    match rest.drop name.length with
    | '!' :: _ => some ('!' :: name ++ ['!'], c.drop (name.length + 2))
    | ' ' :: _ => if name.isEmpty then some (['!'], c.next) else none
    | _ => none
  | _ => none

/-- The octets that are written with percent signs at the front, and what follows. -/
def octets? : List Char → Option (List UInt8 × List Char)
  | '%' :: a :: b :: rest =>
    match hexNumber? [a, b], octets? rest with
    | some n, some (more, rest') => some (n.toUInt8 :: more, rest')
    | _, _ => none
  | '%' :: _ => none
  | rest => some ([], rest)

/-- Characters of the name of a tag. -/
def isTagChar (c : Char) : Bool := c.isAlphanum || "-;/?:@&=+$,_.!~*'()[]".toList.contains c

/-- The name of a tag with its octets resolved, and what follows. `fuel` bounds the characters. -/
def tagChars? : Nat → List Char → Option (List Char × List Char)
  | 0, s => some ([], s)
  | _, [] => some ([], [])
  | fuel + 1, c :: rest =>
    if isTagChar c then (tagChars? fuel rest).map fun (more, after) => (c :: more, after)
    else if c = '%' then
      match octets? (c :: rest) with
      | some (bytes, after) =>
        match Utf8.decode bytes with
        | .ok s => (tagChars? fuel after).map fun (more, after') => (s ++ more, after')
        | .error _ => none
      | none => none
    else some ([], c :: rest)

/-- The name of a tag at a place. -/
def tagName? (c : Cursor) : Option (List Char × Cursor) :=
  match tagChars? c.rest.length c.rest with
  | some (name, after) =>
    if after.length = c.rest.length then none
    else some (name, c.drop (c.rest.length - after.length))
  | none => none

/-- The tag at a place. -/
def tag? (c : Cursor) : Option (Token × Cursor) := do
  let (token, c') ←
    match c.rest.drop 1 with
    | '<' :: _ =>
      let (name, c1) ← tagName? (c.drop 2)
      if c1.rest.head? = some '>' then some (Token.tag none name, c1.next) else none
    | rest =>
      if endsWord rest then some (Token.tag none ['!'], c.next)
      else if (rest.takeWhile fun x => !(x = ' ' || isBreak x)).contains '!' then
        let (handle, c1) ← handle? c
        let (name, c2) ← tagName? c1
        some (Token.tag (some handle) name, c2)
      else
        let (name, c1) ← tagName? c.next
        some (Token.tag (some ['!']) name, c1)
  if endsName c'.rest then some (token, c') else none

/-- The number at a place. -/
def number? (c : Cursor) : Option (Nat × Cursor) :=
  let digits := c.rest.takeWhile Char.isDigit
  if digits.isEmpty then none
  else some (digits.foldl (fun n d => 10 * n + (d.toNat - 0x30)) 0, c.drop digits.length)

/-- The directive behind its percent sign, with the end of its line. -/
def directive? (c : Cursor) : Option (Directive × Cursor) := do
  let name := c.rest.takeWhile isName
  let c1 := c.drop name.length
  if name.isEmpty || !endsName c1.rest then none
  else
    let c2 := c1.dropWhile (· = ' ')
    let (d, c3) ←
      if name = "YAML".toList then do
        let (major, c3) ← number? c2
        if c3.rest.head? ≠ some '.' then none
        else
          let (_, c4) ← number? c3.next
          some (Directive.version major, c4)
      else if name = "TAG".toList then do
        let (handle, c3) ← handle? c2
        if c3.rest.head? ≠ some ' ' then none
        else
          let (target, c4) ← tagName? (c3.dropWhile (· = ' '))
          some (Directive.handle handle target, c4)
      else some (Directive.other, c1.dropWhile (!isBreak ·))
    if endsName c3.rest then do
      let c4 ← endOfLine? c3
      some (d, c4)
    else none

/-! ## 3. The reader -/

/-- A place where a key may have begun. -/
structure PendingKey where
  /-- How many tokens stand before it. -/
  position : Nat
  /-- Whether nothing but a key may stand there. -/
  required : Bool
  start : Cursor
  deriving Repr, Inhabited

/-- A text that is being cut into tokens. -/
structure Scanner where
  cursor : Cursor
  /-- How many brackets are open. -/
  flow : Nat := 0
  /-- One more than the column of each open block, the innermost first. -/
  margins : List Nat := []
  /-- Whether a key may begin here. -/
  fresh : Bool := true
  /-- Where a key may have begun, for each open bracket, the innermost first, and outside of
      them. -/
  keys : List (Option PendingKey) := [none]
  /-- The tokens, the last first. -/
  tokens : List Token := []
  deriving Repr, Inhabited

namespace Scanner

/-- One more than the column of the innermost block, zero without one. -/
def margin (s : Scanner) : Nat := s.margins.headD 0

/-- Adds a token. -/
def push (s : Scanner) (t : Token) : Scanner := { s with tokens := t :: s.tokens }

/-- Puts a token behind the first `position` ones. -/
def insert (s : Scanner) (position : Nat) (t : Token) : Scanner :=
  let later := s.tokens.length - position
  { s with tokens := s.tokens.take later ++ t :: s.tokens.drop later }

/-- Closes the blocks that lie deeper than `margin`; inside of brackets there are none to close. -/
def closeBlocks (margin : Nat) (s : Scanner) : Scanner :=
  if s.flow ≠ 0 then s
  else
    let deeper := s.margins.takeWhile (margin < ·)
    { s with
      margins := s.margins.drop deeper.length
      tokens := List.replicate deeper.length .blockEnd ++ s.tokens }

/-- Opens a block at a column, unless there is one. -/
def openBlock (column position : Nat) (t : Token) (s : Scanner) : Scanner :=
  if s.margin ≤ column then { s.insert position t with margins := (column + 1) :: s.margins }
  else s

/-- Forgets where a key may have begun; fails if there had to be one. -/
def dropKey (s : Scanner) : Option Scanner :=
  match s.keys with
  | some k :: keys => if k.required then none else some { s with keys := none :: keys }
  | _ => some s

/-- Notes that a key may begin here. -/
def saveKey (s : Scanner) : Option Scanner := do
  if s.fresh then
    let s ← s.dropKey
    let required := s.flow = 0 && s.margin = s.cursor.column + 1
    some { s with keys := some ⟨s.tokens.length, required, s.cursor⟩ :: s.keys.tail }
  else some s

/-- Whether a key that began there can no longer end here. -/
def isStale (s : Scanner) (k : PendingKey) : Bool :=
  k.start.line ≠ s.cursor.line || 1024 < s.cursor.index - k.start.index

/-- Forgets the keys that can no longer end. -/
def dropStale (s : Scanner) : Option Scanner := do
  let keys ← s.keys.mapM fun k =>
    match k with
    | some k => if s.isStale k then if k.required then none else some none else some (some k)
    | none => some none
  some { s with keys }

/-- Skips blanks, comments and line ends. `fuel` bounds the lines. -/
def skip : Nat → Scanner → Scanner
  | 0, s => s
  | fuel + 1, s =>
    let c1 := s.cursor.dropWhile (· = ' ')
    let c2 := if c1.rest.head? = some '#' then c1.dropWhile (!isBreak ·) else c1
    match c2.lineBreak? with
    | some (_, c3) => skip fuel { s with cursor := c3, fresh := s.fresh || s.flow = 0 }
    | none => { s with cursor := c2 }

/-- Reads a directive or the border of a document, which close all blocks. -/
def atBorder (s : Scanner) (t : Token) (c : Cursor) : Option Scanner := do
  let s ← (s.closeBlocks 0).dropKey
  some ({ s with fresh := false, cursor := c }.push t)

/-- Reads an opening bracket. -/
def openFlow (s : Scanner) (t : Token) : Option Scanner := do
  let s ← s.saveKey
  some ({ s with
    flow := s.flow + 1, fresh := true, keys := none :: s.keys, cursor := s.cursor.next }.push t)

/-- Reads a closing bracket. -/
def closeFlow (s : Scanner) (t : Token) : Option Scanner := do
  if s.flow = 0 then none
  else
    let s ← s.dropKey
    some ({ s with
      flow := s.flow - 1, fresh := false, keys := s.keys.tail, cursor := s.cursor.next }.push t)

/-- Reads a comma. -/
def comma (s : Scanner) : Option Scanner := do
  let s ← s.dropKey
  some ({ s with fresh := true, cursor := s.cursor.next }.push .comma)

/-- Reads the hyphen of an entry. -/
def entry (s : Scanner) : Option Scanner := do
  if s.flow = 0 && !s.fresh then none
  else
    let s := if s.flow = 0 then
        s.openBlock s.cursor.column s.tokens.length .blockSequenceStart
      else s
    let s ← s.dropKey
    some ({ s with fresh := true, cursor := s.cursor.next }.push .blockEntry)

/-- Reads the question mark before a key. -/
def explicitKey (s : Scanner) : Option Scanner := do
  if s.flow = 0 && !s.fresh then none
  else
    let s := if s.flow = 0 then
        s.openBlock s.cursor.column s.tokens.length .blockMappingStart
      else s
    let s ← s.dropKey
    some ({ s with fresh := s.flow = 0, cursor := s.cursor.next }.push .key)

/-- Reads the colon before a value. If a key may have begun, it did. -/
def value (s : Scanner) : Option Scanner := do
  match s.keys with
  | some k :: keys =>
    let s := { s with keys := none :: keys }.insert k.position .key
    let s := if s.flow = 0 then s.openBlock k.start.column k.position .blockMappingStart else s
    some ({ s with fresh := false, cursor := s.cursor.next }.push .value)
  | _ =>
    if s.flow = 0 && !s.fresh then none
    else
      let s := if s.flow = 0 then
          s.openBlock s.cursor.column s.tokens.length .blockMappingStart
        else s
      some ({ s with fresh := s.flow = 0, cursor := s.cursor.next }.push .value)

/-- Reads a token that may begin a key. -/
def item (s : Scanner) (t : Token) (c : Cursor) (fresh : Bool) : Option Scanner := do
  let s ← s.saveKey
  some ({ s with fresh, cursor := c }.push t)

/-- Reads a block of lines. -/
def lines (s : Scanner) (folded : Bool) : Option Scanner := do
  let s ← s.dropKey
  let (text, c) ← block folded s.margin s.cursor.next
  some ({ s with fresh := true, cursor := c }.push (.text false text))

/-- Whether a plain text may begin here. -/
def startsPlain (inFlow : Bool) : List Char → Bool
  | [] => false
  | c :: rest =>
    if isGap c || isBreak c then false
    else if "-?:,[]\x7b\x7d#&*!|>'\"%@\x60".toList.contains c then
      !endsWord rest && (c = '-' || (!inFlow && (c = '?' || c = ':')))
    else true

/-- Reads a plain text. -/
def plainText (s : Scanner) : Option Scanner :=
  let inFlow := s.flow ≠ 0
  let (text, c, crossed) := plain inFlow s.margin s.cursor.rest.length [] false s.cursor
  s.item (.text true text) c crossed

/-- Reads the next token; the text is not at its end, and nothing is to be skipped. -/
def step (s : Scanner) : Option Scanner :=
  let c := s.cursor
  let inFlow := s.flow ≠ 0
  let next := c.rest.drop 1
  let other : Option Scanner := if startsPlain inFlow c.rest then s.plainText else none
  match c.rest.head? with
  | none => none
  | some x =>
    if x = '%' && c.column = 0 then do
      let (d, c') ← directive? c.next
      s.atBorder (.directive d) c'
    else if c.column = 0 && c.isAtMark '-' then s.atBorder .documentStart (c.drop 3)
    else if c.column = 0 && c.isAtMark '.' then s.atBorder .documentEnd (c.drop 3)
    else
      match x with
      | '[' => s.openFlow .sequenceOpen
      | '{' => s.openFlow .mappingOpen
      | ']' => s.closeFlow .sequenceClose
      | '}' => s.closeFlow .mappingClose
      | ',' => s.comma
      | '-' => if endsWord next then s.entry else other
      | '?' => if inFlow || endsWord next then s.explicitKey else other
      | ':' => if inFlow || endsWord next then s.value else other
      | '*' => do
        let (name, c') ← anchorName? c.next
        s.item (.alias name) c' false
      | '&' => do
        let (name, c') ← anchorName? c.next
        s.item (.anchor name) c' false
      | '!' => do
        let (t, c') ← tag? c
        s.item t c' false
      | '|' => if inFlow then none else s.lines false
      | '>' => if inFlow then none else s.lines true
      | '\'' => do
        let (text, c') ← quoted x c.rest.length c.next
        s.item (.text false text) c' false
      | '"' => do
        let (text, c') ← quoted x c.rest.length c.next
        s.item (.text false text) c' false
      | _ => other

/-- Reads the tokens up to the end of the text. `fuel` bounds them. -/
def run : Nat → Scanner → Option (List Token)
  | 0, _ => none
  | fuel + 1, s => do
    let s ← (s.skip (s.cursor.rest.length + 1)).dropStale
    let s := s.closeBlocks (s.cursor.column + 1)
    if s.cursor.rest.isEmpty then
      let s ← (s.closeBlocks 0).dropKey
      some s.tokens.reverse
    else
      let s ← s.step
      run fuel s

end Scanner

/-- The tokens of a text. A byte order mark at its front is skipped. -/
def tokens? (s : List Char) : Option (List Token) :=
  if s.all isPrintable then
    let start : Cursor := { rest := s }
    let c := if s.head? = some '\ufeff' then start.next else start
    Scanner.run (s.length + 1) { cursor := c }
  else none

end GrammarManual.Yaml
