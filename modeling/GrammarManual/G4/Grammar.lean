import GrammarManual.G4.Reader
import GrammarManual.Text.Lines

/-!
# G4/Grammar: reading a grammar file

`Grammar.read` reads a whole text. A text that is no grammar is refused at one place:

* the place is the furthest at which a token was missing, moved on to the end of a comment or blank
  that could be read there or that begins before it (`refusalPlace`);
* if that is the end of the text, the text ends too early and no line is named.
-/

namespace GrammarManual

/-- A grammar file that has been read. -/
structure Grammar where
  name : Option String := none
  /-- What it declares itself to be; a combined grammar says nothing. -/
  kind : Option G4.GrammarKind := none
  rules : List Rule := []
  deriving Repr, Inhabited

/-- Why a text is no grammar. -/
inductive G4Error where
  /-- A character that no token begins with, and its line and column, counted from 1. -/
  | unexpected (c : Char) (line column : Nat)
  | unfinished
  deriving DecidableEq, Repr, Inhabited

namespace G4Error

/-- The first printed line of what is wrong. -/
def summary : G4Error → String
  | .unexpected c line column =>
    let text := "No terminal matches '" ++ String.singleton c
      ++ "' in the current parser context, at line " ++ toString line ++ " col " ++ toString column
    (Text.lines text).headD ""
  | .unfinished => "Unexpected end-of-input. Expected one of: "

/-- Where it is wrong, as line and column; `-1` if the text ends too early. -/
def place : G4Error → String
  | .unexpected _ line column => toString line ++ ":" ++ toString column
  | .unfinished => "-1:-1"

/-- The whole message about a text of a given name. -/
def message (e : G4Error) (source : String) : String :=
  source ++ ":" ++ e.place ++ ": " ++ e.summary

end G4Error

namespace G4

/-! ## 1. Where a text is refused -/

/-- How far one blank or comment reaches, if one begins here. -/
def ignorableEnd (position : Nat) (s : List Char) : Nat :=
  match s with
  | [] => position
  | c :: _ =>
    if isBlank c then position + (s.takeWhile isBlank).length
    else
      match s with
      | '/' :: '/' :: rest => position + 2 + (rest.takeWhile (· ≠ '\n')).length
      | '/' :: '*' :: rest => closing (position + 2) rest
      | _ => position
where
  /-- The end of a block comment; without an end there is no comment. -/
  closing (n : Nat) : List Char → Nat
    | [] => 0
    | '*' :: '/' :: _ => n + 2
    | _ :: rest => closing (n + 1) rest

/-- Moves a place on as long as some blank or comment that begins at or before it reaches beyond
    the next character. `reach` is how far those before `position` reach. -/
def moveOn (missing : Nat) : Nat → Nat → List Char → Nat
  | position, _, [] => position
  | position, reach, c :: rest =>
    let reach' := max reach (ignorableEnd position (c :: rest))
    if position < missing ∨ position + 1 < reach' then moveOn missing (position + 1) reach' rest
    else position

/-- The place at which a text is refused. -/
def refusalPlace (missing : Nat) (s : List Char) : Nat := moveOn missing 0 0 s

/-- The error at a place of a text. -/
def errorAt (position : Nat) (s : List Char) : G4Error :=
  match s.drop position with
  | [] => .unfinished
  | c :: _ =>
    let before := s.take position
    .unexpected c (Text.newlines before + 1)
      ((before.reverse.takeWhile (· ≠ '\n')).length + 1)

/-! ## 2. Reading -/

/-- A declaration as a rule, its line counted in the text. -/
def Declaration.toRule (s : List Char) (d : Declaration) : Rule where
  name := d.name
  body := d.body
  line := Text.newlines (s.take d.position) + 1
  fragment := d.fragment

end G4

/-- Reads a grammar. -/
def Grammar.read (text : List Char) : Except G4Error Grammar :=
  let reading := G4.file text.length (.start text)
  match reading.result with
  | some (content, _) =>
    .ok {
      name := content.header.map Prod.snd
      kind := content.header.bind Prod.fst
      rules := content.declarations.map (·.toRule text) }
  | none => .error (G4.errorAt (G4.refusalPlace reading.furthest text) text)

end GrammarManual
