import GrammarManual.Pattern.Regex

/-!
# Pattern/Token: a written pattern, token by token

A pattern is read by `Reader`s: they step over its tokens, keep count of the groups, and stop at
the first fault. Positions are those of characters, counted from 0; most faults are reported a
number of characters before the next token.
-/

namespace GrammarManual.PatternReader

/-! ## 1. Tokens -/

/-- A character of a pattern; an escape is one token. -/
inductive Token where
  | plain (c : Char)
  | escaped (c : Char)
  /-- A backslash that ends the pattern. -/
  | dangling
  deriving DecidableEq, Repr, Inhabited

/-- The characters of a token. -/
def Token.chars : Token → List Char
  | .plain c => [c]
  | .escaped c => ['\\', c]
  | .dangling => ['\\']

/-- The text of a token. -/
def Token.text (t : Token) : String := String.ofList t.chars

/-- How many characters a token takes. -/
def Token.width (t : Token) : Nat := t.chars.length

/-- The tokens of a pattern. -/
def tokens : List Char → List Token
  | [] => []
  | '\\' :: c :: rest => .escaped c :: tokens rest
  | ['\\'] => [.dangling]
  | c :: rest => .plain c :: tokens rest

/-! ## 2. Readers -/

/-- What a letter in a group such as `(?i)` asks for. -/
inductive Flag where
  | ignoreCase
  /-- The letters of the place where the program runs; only texts of bytes have them. -/
  | locale
  | multiline
  | dotAll
  | verbose
  | ascii
  | template
  | unicode
  deriving DecidableEq, Repr, Inhabited

/-- What is left to read, and what is known so far. -/
structure State where
  position : Nat := 0
  ahead : List Token
  /-- The flags that hold. -/
  flags : List Flag := []
  /-- The number the next group gets. -/
  groups : Nat := 1
  names : List (String × Nat) := []
  /-- The groups that are closed. -/
  widths : List (Nat × Width) := []
  /-- In a look back, the number the next group had at its beginning. -/
  lookingBack : Option Nat := none
  /-- The groups that choices ask for by number, each with the place that asks first. -/
  asked : List (Nat × Nat) := []
  deriving Inhabited

/-- A computation that reads tokens. -/
abbrev Reader := StateT State (Except PatternError)

/-- Reports a fault so many characters before the next token. -/
def refuse {α : Type} (fault : PatternFault) (back : Nat := 0) : Reader α :=
  fun s => .error { fault, position := some (s.position - back) }

/-- Reports a fault at a position. -/
def refuseAt {α : Type} (fault : PatternFault) (position : Nat) : Reader α :=
  fun _ => .error { fault, position := some position }

/-- Reports a fault of the whole. -/
def refuseAll {α : Type} (fault : PatternFault) : Reader α := fun _ => .error { fault }

/-- A backslash at the end is noticed as soon as it is the next token. -/
def checkDangling : Reader Unit := do
  if let .dangling :: _ := (← get).ahead then refuse .danglingEscape

/-- The next token, if any. -/
def peek : Reader (Option Token) := return (← get).ahead.head?

/-- Steps behind the next token. -/
def next : Reader (Option Token) := do
  let s ← get
  match s.ahead with
  | [] => return none
  | t :: rest =>
    set { s with position := s.position + t.width, ahead := rest }
    checkDangling
    return some t

/-- Steps behind the next token if it is a certain plain character. -/
def accept (c : Char) : Reader Bool := do
  if (← peek) = some (.plain c) then
    discard next
    return true
  else return false

/-- Takes up to `n` plain characters of a kind. -/
def takeUpTo (p : Char → Bool) : Nat → Reader (List Char)
  | 0 => return []
  | n + 1 => do
    match ← peek with
    | some (.plain c) =>
      if p c then
        discard next
        return c :: (← takeUpTo p n)
      else return []
    | _ => return []

/-- Takes the plain characters of a kind. -/
def takeWhile (p : Char → Bool) : Reader (List Char) := do
  takeUpTo p (← get).ahead.length

/-- Reads a name up to the character that closes it; `what` tells of what it is a name, `n` bounds
    the tokens. -/
def nameFrom (close : Char) (what : String) : Nat → String → Reader String
  | 0, name => refuse (.openName close) name.length
  | n + 1, name => do
    match ← next with
    | none =>
      if name.isEmpty then refuse (.noName what) else refuse (.openName close) name.length
    | some t =>
      if t ≠ .plain close then nameFrom close what n (name ++ t.text)
      else if name.isEmpty then refuse (.noName what) 1
      else return name

/-- Reads a name up to the character that closes it. -/
def readName (close : Char) (what : String) : Reader String := do
  nameFrom close what ((← get).ahead.length + 1) ""

/-! ## 3. Groups that are referred to -/

/-- In a look back, refuses a group that is open or belongs to it. -/
def checkLookingBack (index : Nat) : Reader Unit := do
  let s ← get
  if let some first := s.lookingBack then
    if (s.widths.lookup index).isNone then refuse .openReference
    if first ≤ index then refuse .ownReference

/-- The width of a group that is referred to by a text so many characters long. -/
def referTo (index back : Nat) : Reader Width := do
  match (← get).widths.lookup index with
  | none => refuse .openReference back
  | some w =>
    checkLookingBack index
    return w

/-- How letters count with the flags that hold. -/
def lettering : Reader Lettering := do
  let flags := (← get).flags
  return { ignoreCase := flags.contains .ignoreCase, ascii := flags.contains .ascii }

end GrammarManual.PatternReader
