import GrammarManual.G4.Cursor

/-!
# G4/Token: the tokens of the notation

There is no token stream: a token is looked for where it may stand, and only there. Words need not
be separated (`grammarT;` declares the grammar `T`), and a token takes as many characters as it can.
-/

namespace GrammarManual.G4

/-- What splits a token from the front of a text. -/
abbrev Scan := List Char → Option (List Char × List Char)

namespace Scan

/-! ## 1. Words -/

/-- A fixed text. -/
def exactly : List Char → Scan
  | [], s => some ([], s)
  | _ :: _, [] => none
  | k :: ks, c :: rest =>
    if k = c then (exactly ks rest).map fun (text, rest') => (c :: text, rest') else none

/-- As many characters of a kind as there are. -/
def run (p : Char → Bool) (s : List Char) : List Char × List Char := (s.takeWhile p, s.dropWhile p)

/-- A character of a name behind the first. -/
def isNameChar (c : Char) : Bool := c.isAlphanum || c = '_'

/-- A name whose first letter is of a kind. -/
def name (first : Char → Bool) : Scan
  | [] => none
  | c :: rest =>
    if first c then
      let (more, rest') := run isNameChar rest
      some (c :: more, rest')
    else none

/-- The name of a token: it begins with a capital. -/
def upperName : Scan := name Char.isUpper

/-- The name of a parser rule: it begins with a small letter. -/
def lowerName : Scan := name Char.isLower

/-- Digits. -/
def digits (s : List Char) : Option (List Char × List Char) :=
  match run Char.isDigit s with
  | ([], _) => none
  | (text, rest) => some (text, rest)

/-! ## 2. Enclosed text -/

/-- Text up to a closing character, which is taken too. A backslash takes the next character with
    it, unless that is a newline; `allowed` says what may stand by itself. -/
def upToClose (close : Char) (allowed : Char → Bool) : Scan
  | [] => none
  | '\\' :: c :: rest =>
    if c = '\n' then none
    else (upToClose close allowed rest).map fun (text, rest') => ('\\' :: c :: text, rest')
  | c :: rest =>
    if c = close then some ([c], rest)
    else if c ≠ '\\' ∧ allowed c then
      (upToClose close allowed rest).map fun (text, rest') => (c :: text, rest')
    else none

/-- Text between an opening and a closing character. -/
def enclosed (opening close : Char) (allowed : Char → Bool) : Scan
  | [] => none
  | c :: rest =>
    if c = opening then
      (upToClose close allowed rest).map fun (text, rest') => (c :: text, rest')
    else none

/-- Characters that do not break a line. -/
def isInline (c : Char) : Bool := c ≠ '\r' && c ≠ '\n'

/-- A quoted literal, on one line. -/
def literal : Scan := enclosed '\'' '\'' isInline

/-- A character set, on one line. -/
def charset : Scan := enclosed '[' ']' isInline

/-- The argument of a rule: as a character set, but it may break lines. -/
def argument : Scan := enclosed '[' ']' fun _ => true

/-- Text up to the brace that closes `depth` open ones. At most three are open at a time. -/
def braces : Nat → Scan
  | _, [] => none
  | 0, s => some ([], s)
  | depth + 1, c :: rest =>
    let go (d : Nat) := (braces d rest).map fun (text, rest') => (c :: text, rest')
    if c = '{' then if depth + 1 < 3 then go (depth + 2) else none
    else if c = '}' then if depth = 0 then some ([c], rest) else go depth
    else go (depth + 1)

/-- A block of foreign code in braces. -/
def code : Scan
  | [] => none
  | c :: rest =>
    if c = '{' then (braces 1 rest).map fun (text, rest') => (c :: text, rest') else none

/-- Options of an element, in angle brackets. -/
def options : Scan
  | [] => none
  | c :: rest =>
    if c = '<' then
      match run (fun d => d ≠ '<' && d ≠ '>') rest with
      | (text, '>' :: rest') => some (c :: text ++ ['>'], rest')
      | _ => none
    else none

/-! ## 3. Signs -/

/-- The sign behind a label. -/
def labelSign : Scan
  | '+' :: '=' :: rest => some (['+', '='], rest)
  | '=' :: rest => some (['='], rest)
  | _ => none

/-- The suffix of an element: `?`, `+` or `*`, lazy with one more `?`. -/
def suffix : Scan
  | [] => none
  | c :: rest =>
    if c = '?' ∨ c = '*' ∨ c = '+' then
      match rest with
      | '?' :: rest' => some ([c, '?'], rest')
      | _ => some ([c], rest)
    else none

/-- The wildcard: a dot, but not the first of two. -/
def wildcard : Scan
  | '.' :: '.' :: _ => none
  | '.' :: rest => some (['.'], rest)
  | _ => none

end Scan

end GrammarManual.G4
