/-!
# Text/Lines: lines of a text

Two notions of a line live side by side:

* physical lines end at a newline only (`newlinesBefore`, `splitNewlines`);
* printed lines end at every line boundary of Unicode (`splitLines`), a carriage return followed by
  a newline being one boundary.

`unifyNewlines` is what reading a file does first: every carriage return, with the newline behind
it if there is one, becomes a newline.
-/

namespace GrammarManual.Text

/-- The characters that end a printed line. -/
def isLineBoundary (c : Char) : Bool :=
  let n := c.toNat
  (0x0a ≤ n && n ≤ 0x0d) || (0x1c ≤ n && n ≤ 0x1e) || n == 0x85 || n == 0x2028 || n == 0x2029

/-- Carriage returns, alone or before a newline, become newlines. -/
def unifyNewlines : List Char → List Char
  | [] => []
  | '\r' :: '\n' :: rest => '\n' :: unifyNewlines rest
  | '\r' :: rest => '\n' :: unifyNewlines rest
  | c :: rest => c :: unifyNewlines rest

/-- How many newlines a text holds. -/
def newlines (s : List Char) : Nat := s.count '\n'

/-- The printed lines of a text, without their boundaries. A boundary at the end of the text opens
    no further line. -/
def splitLines : List Char → List (List Char)
  | [] => []
  | '\r' :: '\n' :: rest => [] :: splitLines rest
  | c :: rest =>
    if isLineBoundary c then [] :: splitLines rest
    else
      match splitLines rest with
      | [] => [[c]]
      | line :: more => (c :: line) :: more

/-- The printed lines of a string. -/
def lines (s : String) : List String := (splitLines s.toList).map String.ofList

/-- The pieces between newlines; a text without newline is one piece. -/
def splitNewlines : List Char → List (List Char)
  | [] => [[]]
  | '\n' :: rest => [] :: splitNewlines rest
  | c :: rest =>
    match splitNewlines rest with
    | [] => [[c]]
    | piece :: pieces => (c :: piece) :: pieces

end GrammarManual.Text
