import GrammarManual.Text.Blank
import GrammarManual.Text.Letter

/-!
# Text/Integer: integers that a text writes

Digits of every script count, single underscores may stand between them, and white space around the
whole does not matter. Numerals of more than 4300 digits are refused.
-/

namespace GrammarManual.Text

/-- The most digits that a numeral may have. -/
def mostDigits : Nat := 4300

/-- The number that digits write, single underscores between them left out. -/
def digits? (n : Nat) : List Char → Option Nat
  | [] => none
  | [c] => if Letter.isDecimal c then some (10 * n + Letter.decimalValue c) else none
  | c :: '_' :: rest =>
    if Letter.isDecimal c then digits? (10 * n + Letter.decimalValue c) rest else none
  | c :: rest =>
    if Letter.isDecimal c then digits? (10 * n + Letter.decimalValue c) rest else none

/-- The number that a numeral without sign writes. -/
def natural? (s : List Char) : Option Nat :=
  if mostDigits < s.countP Letter.isDecimal then none else digits? 0 s

/-- The integer that a text writes; white space around it does not count. -/
def integer? (s : String) : Option Int :=
  match (trim s).toList with
  | '-' :: rest => (natural? rest).map fun n => -(n : Int)
  | '+' :: rest => (natural? rest).map fun n => (n : Int)
  | rest => (natural? rest).map fun n => (n : Int)

end GrammarManual.Text
