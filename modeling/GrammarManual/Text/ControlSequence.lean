/-!
# Text/ControlSequence: what a terminal obeys and does not show

A control sequence is an escape and an opening bracket, parameters, and a letter. It tells a
terminal how to show the text behind it. A text that does not go to a terminal is freed of them.
-/

namespace GrammarManual.Text

/-- The characters that stand between the bracket and the letter of a control sequence. -/
def isParameter (c : Char) : Bool := c == ';' || c == '?' || ('0' ≤ c && c ≤ '9')

/-- How many characters the parameters at the beginning of a text take, with the letter behind
    them, if there is one. -/
def parametersLength? : List Char → Option Nat
  | [] => none
  | c :: rest =>
    if isParameter c then (parametersLength? rest).map (· + 1)
    else if c.isAlpha then some 1
    else none

/-- How many characters the control sequence at the beginning of a text takes, if there is one. -/
def sequenceLength? : List Char → Option Nat
  | '\x1b' :: '[' :: rest => (parametersLength? rest).map (· + 2)
  | _ => none

/-- Leaves out the first `skip` characters, and of what follows every control sequence. -/
def dropSequences : Nat → List Char → List Char
  | _, [] => []
  | skip + 1, _ :: rest => dropSequences skip rest
  | 0, c :: rest =>
    match sequenceLength? (c :: rest) with
    | some length => dropSequences (length - 1) rest
    | none => c :: dropSequences 0 rest

/-- A text without its control sequences. -/
def withoutSequences (s : String) : String := String.ofList (dropSequences 0 s.toList)

end GrammarManual.Text
