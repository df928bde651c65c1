/-!
# G4/Cursor: reading with a memory of the furthest failure

* `Cursor`: a place in a text, as the number of characters behind it and the characters ahead;
* `skipBlank`: the place behind the blanks and comments at a cursor;
* `Reader`: reads a value or fails. Either way it reports the furthest place at which some token
  was looked for in vain: that place says where a text goes wrong, even when a failed attempt was
  followed by another one.
-/

namespace GrammarManual.G4

/-! ## 1. Places -/

/-- A place in a text. -/
structure Cursor where
  position : Nat
  rest : List Char
  deriving DecidableEq, Repr, Inhabited

/-- The start of a text. -/
def Cursor.start (s : List Char) : Cursor := ⟨0, s⟩

/-! ## 2. Blanks and comments -/

/-- The white space of the notation. -/
def isBlank (c : Char) : Bool := c = ' ' || c = '\t' || c = '\x0c' || c = '\r' || c = '\n'

/-- What is being skipped. A comment that is not closed is no comment: skipping then ends where it
    would have begun. -/
inductive Skipping where
  | blanks
  /-- Behind a slash that may open a comment. -/
  | slash (opening : Cursor)
  | line
  | block (opening : Cursor)
  /-- Behind a star inside a block comment. -/
  | star (opening : Cursor)
  deriving DecidableEq, Repr, Inhabited

/-- Skips blanks, comments to the end of a line and block comments. -/
def skip : Skipping → Nat → List Char → Cursor
  | .blanks, n, [] => ⟨n, []⟩
  | .blanks, n, c :: rest =>
    if isBlank c then skip .blanks (n + 1) rest
    else if c = '/' then skip (.slash ⟨n, c :: rest⟩) (n + 1) rest
    else ⟨n, c :: rest⟩
  | .slash opening, _, [] => opening
  | .slash opening, n, c :: rest =>
    if c = '/' then skip .line (n + 1) rest
    else if c = '*' then skip (.block opening) (n + 1) rest
    else opening
  | .line, n, [] => ⟨n, []⟩
  | .line, n, c :: rest =>
    if c = '\n' then skip .blanks (n + 1) rest else skip .line (n + 1) rest
  | .block opening, _, [] => opening
  | .block opening, n, c :: rest =>
    if c = '*' then skip (.star opening) (n + 1) rest else skip (.block opening) (n + 1) rest
  | .star opening, _, [] => opening
  | .star opening, n, c :: rest =>
    if c = '/' then skip .blanks (n + 1) rest
    else if c = '*' then skip (.star opening) (n + 1) rest
    else skip (.block opening) (n + 1) rest

/-- The place behind the blanks and comments at a cursor. -/
def skipBlank (c : Cursor) : Cursor := skip .blanks c.position c.rest

/-! ## 3. Readers -/

/-- What a reader reports. -/
structure Reading (α : Type) where
  /-- The value and the place behind it, unless the reader fails. -/
  result : Option (α × Cursor)
  /-- The furthest place at which a token was missing. -/
  furthest : Nat
  deriving Repr

/-- Reads a value at a cursor. -/
def Reader (α : Type) := Cursor → Reading α

namespace Reader

variable {α β : Type}

/-- Reads nothing. -/
def pure (a : α) : Reader α := fun c => ⟨some (a, c), 0⟩

/-- Reads one thing and then another. -/
def bind (p : Reader α) (f : α → Reader β) : Reader β := fun c =>
  match p c with
  | ⟨none, n⟩ => ⟨none, n⟩
  | ⟨some (a, c'), n⟩ =>
    let r := f a c'
    ⟨r.result, max n r.furthest⟩

instance : Monad Reader where
  pure := pure
  bind := bind

/-- Fails without having looked for anything. -/
def fail : Reader α := fun _ => ⟨none, 0⟩

/-- Reads the first thing or, if that fails, the second. -/
def or (p q : Reader α) : Reader α := fun c =>
  match p c with
  | ⟨some x, n⟩ => ⟨some x, n⟩
  | ⟨none, n⟩ =>
    let r := q c
    ⟨r.result, max n r.furthest⟩

/-- Reads the first thing that can be read. -/
def firstOf : List (Reader α) → Reader α
  | [] => fail
  | [p] => p
  | p :: ps => p.or (firstOf ps)

/-- Reads a thing if it is there. -/
def optional (p : Reader α) : Reader (Option α) :=
  (do let a ← p; return some a).or (pure none)

/-- Reads up to `n` things, as many as there are. -/
def upTo (p : Reader α) : Nat → Reader (List α)
  | 0 => pure []
  | n + 1 => do
    match ← p.optional with
    | none => return []
    | some a =>
      let as ← upTo p n
      return a :: as

/-- Reads things as long as there are some. Every thing takes a character at least. -/
def many (p : Reader α) : Reader (List α) := fun c => upTo p (c.rest.length + 1) c

/-- Looks whether something can be read, without reading it. -/
def ahead (p : Reader α) : Reader Bool := fun c =>
  let r := p c
  ⟨some (r.result.isSome, c), r.furthest⟩

/-- The place at which the next token begins. -/
def place : Reader Nat := fun c => ⟨some ((skipBlank c).position, c), 0⟩

/-- Reads a token behind blanks and comments. `scan` splits the token from the rest of the text. -/
def token (scan : List Char → Option (List Char × List Char)) : Reader String := fun c =>
  let c' := skipBlank c
  match scan c'.rest with
  | some (text, rest) => ⟨some (String.ofList text, ⟨c'.position + text.length, rest⟩), 0⟩
  | none => ⟨none, c'.position⟩

/-- Reads the end of the text behind blanks and comments. -/
def ending : Reader Unit := fun c =>
  let c' := skipBlank c
  match c'.rest with
  | [] => ⟨some ((), c'), 0⟩
  | _ :: _ => ⟨none, c'.position⟩

end Reader

end GrammarManual.G4
