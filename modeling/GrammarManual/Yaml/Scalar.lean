import GrammarManual.Yaml.Cursor

/-!
# Yaml/Scalar: how texts are written

A text is written plain, in quotation marks, or as a block of lines. Every reader here takes the
place where the text begins and gives the text and the place behind it. Lines of plain and of quoted
texts are joined: one line end becomes a blank, and of several the first one is dropped.
-/

namespace GrammarManual.Yaml

/-- The characters that stand for a line end and the further line ends behind it. -/
def joinLines (first : Char) (more : List Char) : List Char :=
  if first ≠ '\n' then first :: more
  else if more.isEmpty then [' '] else more

/-! ## 1. Plain texts -/

/-- The plain text at the front, up to white space or an indicator. -/
def plainWord (inFlow : Bool) : List Char → List Char
  | [] => []
  | c :: rest =>
    if isGap c || isBreak c then []
    else if c = ':' && (endsWord rest
        || (inFlow && (rest.head?.map [',', '[', ']', '{', '}'].contains).getD false)) then []
    else if inFlow && [',', '?', '[', ']', '{', '}'].contains c then []
    else c :: plainWord inFlow rest

/-- The further line ends, none if documents are set apart there. `fuel` bounds the characters. -/
def plainBreaks : Nat → Cursor → Option (List Char) × Cursor
  | 0, c => (some [], c)
  | fuel + 1, c =>
    match c.rest with
    | ' ' :: _ => plainBreaks fuel c.next
    | _ =>
      match c.lineBreak? with
      | none => (some [], c)
      | some (b, c') =>
        if c'.isAtBorder then (none, c')
        else
          let (breaks, c'') := plainBreaks fuel c'
          (breaks.map (b :: ·), c'')

/-- The white space between two words of a plain text, nothing if the text ends; the place behind
    it; whether a line ends in it. -/
def plainGap (c : Cursor) : List Char × Cursor × Bool :=
  let blanks := c.rest.takeWhile (· = ' ')
  let c1 := c.drop blanks.length
  match c1.lineBreak? with
  | none => (blanks, c1, false)
  | some (b, c2) =>
    if c2.isAtBorder then ([], c2, true)
    else
      match plainBreaks c2.rest.length c2 with
      | (some breaks, c3) => (joinLines b breaks, c3, true)
      | (none, c3) => ([], c3, true)

/-- Reads a plain text whose lines reach column `margin`. `gap` is the white space before it, and
    `crossed` says whether a line ends in that; so does the last part of the result for the white
    space behind the text. `fuel` bounds the words. -/
def plain (inFlow : Bool) (margin : Nat) :
    Nat → List Char → Bool → Cursor → List Char × Cursor × Bool
  | 0, _, crossed, c => ([], c, crossed)
  | fuel + 1, gap, crossed, c =>
    let word := if c.rest.head? = some '#' then [] else plainWord inFlow c.rest
    if word.isEmpty then ([], c, crossed)
    else
      let (gap', c', crossed') := plainGap (c.drop word.length)
      if gap'.isEmpty || c'.rest.head? = some '#' || (!inFlow && c'.column < margin) then
        (gap ++ word, c', crossed')
      else
        let (more, c'', crossed'') := plain inFlow margin fuel gap' crossed' c'
        (gap ++ word ++ more, c'', crossed'')

/-! ## 2. Quoted texts -/

/-- The further line ends; nothing may set documents apart there. `fuel` bounds them. -/
def quotedBreaks : Nat → Cursor → Option (List Char × Cursor)
  | 0, c => some ([], c)
  | fuel + 1, c =>
    if c.isAtBorder then none
    else
      let c1 := c.dropWhile isGap
      match c1.lineBreak? with
      | none => some ([], c1)
      | some (b, c2) => (quotedBreaks fuel c2).map fun (breaks, c3) => (b :: breaks, c3)

/-- The white space at a place in a quoted text, and the place behind it. -/
def quotedGap (c : Cursor) : Option (List Char × Cursor) :=
  let blanks := c.rest.takeWhile isGap
  let c1 := c.drop blanks.length
  match c1.lineBreak? with
  | none => if c1.rest.isEmpty then none else some (blanks, c1)
  | some (b, c2) =>
    (quotedBreaks c2.rest.length c2).map fun (breaks, c3) => (joinLines b breaks, c3)

/-- What a letter behind a backslash stands for. -/
def escapes : List (Char × Nat) :=
  [('0', 0), ('a', 7), ('b', 8), ('t', 9), ('\t', 9), ('n', 10), ('v', 11), ('f', 12), ('r', 13),
   ('e', 27), (' ', 32), ('"', 34), ('\\', 92), ('/', 47), ('N', 0x85), ('_', 0xa0),
   ('L', 0x2028), ('P', 0x2029)]

/-- How many digits follow a letter behind a backslash. -/
def digitEscapes : List (Char × Nat) := [('x', 2), ('u', 4), ('U', 8)]

/-- The value of a hexadecimal digit. -/
def hexValue? (c : Char) : Option Nat :=
  if c.isDigit then some (c.toNat - 0x30)
  else if 'a' ≤ c && c ≤ 'f' then some (c.toNat - 0x57)
  else if 'A' ≤ c && c ≤ 'F' then some (c.toNat - 0x37)
  else none

/-- The number that hexadecimal digits write. -/
def hexNumber? (digits : List Char) : Option Nat :=
  digits.foldl (fun n c => do return (← n) * 16 + (← hexValue? c)) (some 0)

/-- What a backslash and the text behind it stand for; the place is that behind the backslash. -/
def escape? (c : Cursor) : Option (List Char × Cursor) :=
  match c.rest with
  | [] => none
  | x :: _ =>
    match escapes.lookup x, digitEscapes.lookup x, c.lineBreak? with
    | some n, _, _ => some ([Char.ofNat n], c.next)
    | none, some size, _ =>
      let digits := c.next.rest.take size
      match hexNumber? digits with
      | some n =>
        if digits.length < size || 0x110000 ≤ n then none
        else some ([if n.isValidChar then Char.ofNat n else '\ufffd'], c.next.drop size)
      | none => none
    | none, none, some (_, c') => quotedBreaks c'.rest.length c'
    | none, none, none => none

/-- Reads a quoted text behind its opening mark. Between single marks a doubled mark is one mark;
    between double marks a backslash escapes. `fuel` bounds the characters. -/
def quoted (mark : Char) : Nat → Cursor → Option (List Char × Cursor)
  | 0, _ => none
  | fuel + 1, c =>
    let further (r : Option (List Char × Cursor)) : Option (List Char × Cursor) :=
      match r with
      | none => none
      | some (s, c') => (quoted mark fuel c').map fun (more, c'') => (s ++ more, c'')
    match c.rest with
    | [] => none
    | x :: rest =>
      if x = mark then
        if mark = '\'' && rest.head? = some '\'' then further (some ([x], c.drop 2))
        else some ([], c.next)
      else if mark = '"' && x = '\\' then further (escape? c.next)
      else if isGap x || isBreak x then further (quotedGap c)
      else further (some ([x], c.next))

/-! ## 3. Blocks of lines -/

/-- What becomes of the line ends at the end of a block. -/
inductive Chomp where
  | strip
  | clip
  | keep
  deriving DecidableEq, Repr, Inhabited

/-- A sign that says what becomes of the line ends. -/
def chomp? (c : Cursor) : Option (Chomp × Cursor) :=
  match c.rest with
  | '+' :: _ => some (.keep, c.next)
  | '-' :: _ => some (.strip, c.next)
  | _ => none

/-- A digit that says how deep a block is indented. -/
def depth? (c : Cursor) : Option (Nat × Cursor) :=
  match c.rest with
  | x :: _ => if x.isDigit then some (x.toNat - 0x30, c.next) else none
  | [] => none

/-- The sign and the digit behind the indicator of a block, in either order. -/
def blockHeader (c : Cursor) : Chomp × Option Nat × Cursor :=
  match chomp? c, depth? c with
  | some (chomp, c1), _ =>
    match depth? c1 with
    | some (n, c2) => (chomp, some n, c2)
    | none => (chomp, none, c1)
  | none, some (n, c1) =>
    match chomp? c1 with
    | some (chomp, c2) => (chomp, some n, c2)
    | none => (.clip, some n, c1)
  | none, none => (.clip, none, c)

/-- The place behind the rest of a line that holds no more than a comment. -/
def endOfLine? (c : Cursor) : Option Cursor :=
  let c1 := c.dropWhile (· = ' ')
  let c2 := if c1.rest.head? = some '#' then c1.dropWhile (!isBreak ·) else c1
  if endsLine c2.rest then some ((c2.lineBreak?.map (·.2)).getD c2) else none

/-- The line ends before the first line that holds something, and the deepest indentation up to
    there. `fuel` bounds the characters. -/
def blockDepth : Nat → Nat → Cursor → List Char × Nat × Cursor
  | 0, deepest, c => ([], deepest, c)
  | fuel + 1, deepest, c =>
    match c.rest with
    | ' ' :: _ => blockDepth fuel (max deepest c.next.column) c.next
    | _ =>
      match c.lineBreak? with
      | none => ([], deepest, c)
      | some (b, c') =>
        let (breaks, deepest', c'') := blockDepth fuel deepest c'
        (b :: breaks, deepest', c'')

/-- Skips blanks, but not beyond a column. -/
def indentTo (column : Nat) (c : Cursor) : Cursor :=
  c.drop (min (c.rest.takeWhile (· = ' ')).length (column - c.column))

/-- The line ends between two lines of a block that is indented to a column. `fuel` bounds
    them. -/
def blockBreaks (column : Nat) : Nat → Cursor → List Char × Cursor
  | 0, c => ([], c)
  | fuel + 1, c =>
    let c1 := indentTo column c
    match c1.lineBreak? with
    | none => ([], c1)
    | some (b, c2) =>
      let (breaks, c3) := blockBreaks column fuel c2
      (b :: breaks, c3)

/-- Whether a block goes on at a place. -/
def isInBlock (column : Nat) (c : Cursor) : Bool := c.column = column && !c.rest.isEmpty

/-- Reads the lines of a block. `breaks` are the line ends before the next line. The results are
    the text, the end of its last line, the line ends behind that, and the place there. `fuel`
    bounds the lines. -/
def blockLines (folded : Bool) (column : Nat) :
    Nat → List Char → Cursor → List Char × List Char × List Char × Cursor
  | 0, breaks, c => ([], [], breaks, c)
  | fuel + 1, breaks, c =>
    if isInBlock column c then
      let line := c.rest.takeWhile (!isBreak ·)
      let c1 := c.drop line.length
      let (ending, c2) : List Char × Cursor :=
        match c1.lineBreak? with
        | some (b, c2) => ([b], c2)
        | none => ([], c1)
      let (breaks', c3) := blockBreaks column (c2.rest.length + 1) c2
      if isInBlock column c3 then
        let flush (s : List Char) : Bool := (s.head?.map (!isGap ·)).getD true
        let between :=
          if folded && ending = ['\n'] && flush c.rest && flush c3.rest then
            if breaks'.isEmpty then [' '] else []
          else ending
        let (more, ending', breaks'', c4) := blockLines folded column fuel breaks' c3
        (breaks ++ line ++ between ++ more, ending', breaks'', c4)
      else (breaks ++ line, ending, breaks', c3)
    else ([], [], breaks, c)

/-- Reads a block of lines behind its indicator. Its lines reach at least column `margin`, and at
    least column 1. -/
def block (folded : Bool) (margin : Nat) (c : Cursor) : Option (List Char × Cursor) :=
  let (chomp, depth, c1) := blockHeader c
  if depth = some 0 || !endsName c1.rest then none
  else
    (endOfLine? c1).map fun c2 =>
      let least := max margin 1
      let fuel := c2.rest.length + 1
      let (breaks, column, c3) : List Char × Nat × Cursor :=
        match depth with
        | some n =>
          let (breaks, c3) := blockBreaks (least + n - 1) fuel c2
          (breaks, least + n - 1, c3)
        | none =>
          let (breaks, deepest, c3) := blockDepth fuel 0 c2
          (breaks, max least deepest, c3)
      let (text, ending, breaks', c4) := blockLines folded column fuel breaks c3
      match chomp with
      | .strip => (text, c4)
      | .clip => (text ++ ending, c4)
      | .keep => (text ++ ending ++ breaks', c4)

end GrammarManual.Yaml
