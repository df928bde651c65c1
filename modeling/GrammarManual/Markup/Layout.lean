import GrammarManual.Grammar.Expr
import GrammarManual.Markup.Marker

/-!
# Markup/Layout: rule bodies on the page

A `Layout` is a rule body ready to be written. Two functions read it:

* `length`: how many characters it takes on one line, computed from the parts;
* `markers`: the marks that write it, with line breaks where a sequence grows too long.

Lengths decide where lines break (`breakLines`) and nothing else. A break counts as the one blank
it replaces; the indentation written behind it is not counted.
-/

namespace GrammarManual

/-! ## 1. Lines of a sequence -/

section Break

variable {α : Type} (limit : Int) (width : α → Nat)

/-- Continues a line that is `used` wide: what still fits on it, and the lines after it. The next
    item starts a new line when it would push the line over the limit. -/
def fillLine : Nat → List α → List α × List (List α)
  | _, [] => ([], [])
  | used, x :: xs =>
    if (used + width x : Nat) > limit then
      let (line, more) := fillLine (width x) xs
      ([], (x :: line) :: more)
    else
      let (line, more) := fillLine (used + width x) xs
      (x :: line, more)

/-- Cuts a list of items into lines. Only the widths of the items count against the limit, not the
    blanks between them, and the first item never starts a second line. -/
def breakLines : List α → List (List α)
  | [] => []
  | x :: xs =>
    let (line, more) := fillLine limit width (width x) xs
    (x :: line) :: more

end Break

/-! ## 2. Layouts -/

/-- A rule body ready to be written. -/
inductive Layout where
  /-- What actions and predicates leave behind: no item of a sequence at all. -/
  | nothing
  | symbol (text : String)
  | string (text : String)
  | identifier (name : String)
  /-- Parts written one behind the other, with nothing between them. -/
  | beside (parts : List Layout)
  /-- Items with a blank or a line break between neighbours; `limit` is the greatest width of a
      line. -/
  | sequence (items : List Layout) (limit : Int)
  /-- Alternatives, on one line in brackets or each on a line of its own. -/
  | choice (alternatives : List Layout) (brackets : Bool)
  deriving Repr, Inhabited

namespace Layout

/-- Puts `|` and `;` under the colon of the rule. -/
def alternativeIndent : Nat := 2

/-- Puts a continued sequence under the first item behind the colon. -/
def continuationIndent : Nat := 4

/-- A line break and the indentation of the next line. -/
def newLine (indent : Nat) : List Marker := .lineBreak :: List.replicate indent .whitespace

/-- The mark of a lazy suffix; a greedy one has none. -/
def lazyMark (greedy : Bool) : Layout := if greedy then .nothing else .symbol "?"

/-- An operand with its suffix. -/
def repeated (operand : Layout) (times : Repetition) (greedy : Bool) : Layout :=
  .beside [operand, .symbol times.sign, lazyMark greedy]

def negated (operand : Layout) : Layout := .beside [.symbol "~", operand]

def range (first last : Layout) : Layout := .beside [first, .string "..", last]

def charset (text : String) : Layout := .beside [.symbol "[", .string text, .symbol "]"]

def wildcard : Layout := .symbol "."

/-- Whether a layout is an item of a sequence. -/
def isItem : Layout → Bool
  | .nothing => false
  | _ => true

/-! ## 3. Lengths -/

mutual

/-- The characters a layout takes on one line. -/
def length : Layout → Nat
  | .nothing => 0
  | .symbol text => text.length
  | .string text => text.length
  | .identifier name => name.length
  | .beside parts => totalLength parts
  | .sequence items _ => totalLength items + ((items.filter isItem).length - 1)
  | .choice alternatives brackets =>
    totalLength alternatives + 3 * (alternatives.length - 1) + if brackets then 2 else 0

def totalLength : List Layout → Nat
  | [] => 0
  | l :: ls => length l + totalLength ls

end

/-! ## 4. Marks -/

/-- An item of a sequence as the line breaker sees it. -/
structure Piece where
  width : Nat
  markers : List Marker
  deriving Repr, Inhabited

/-- Writes the lines of a sequence: blanks between items, indented breaks between lines. -/
def writeLines (lines : List (List Piece)) : List Marker :=
  List.intercalate (newLine continuationIndent)
    (lines.map fun line => List.intercalate [.whitespace] (line.map Piece.markers))

/-- Writes a sequence of pieces. -/
def writeSequence (limit : Int) (pieces : List Piece) : List Marker :=
  writeLines (breakLines limit Piece.width pieces)

/-- What stands between two alternatives. -/
def separator (brackets : Bool) : List Marker :=
  (if brackets then [.whitespace] else newLine alternativeIndent) ++ [.symbol "|", .whitespace]

/-- Writes alternatives. -/
def writeChoice (brackets : Bool) (alternatives : List (List Marker)) : List Marker :=
  let body := List.intercalate (separator brackets) alternatives
  if brackets then .symbol "(" :: body ++ [.symbol ")"] else body

mutual

/-- The marks that write a layout. -/
def markers : Layout → List Marker
  | .nothing => []
  | .symbol text => [.symbol text]
  | .string text => [.string text]
  | .identifier name => [.identifier name]
  | .beside parts => (markersOf parts).flatten
  | .sequence items limit => writeSequence limit (pieces items)
  | .choice alternatives brackets => writeChoice brackets (markersOf alternatives)

def markersOf : List Layout → List (List Marker)
  | [] => []
  | l :: ls => markers l :: markersOf ls

/-- The items of a sequence as pieces; what is no item leaves none. -/
def pieces : List Layout → List Piece
  | [] => []
  | l :: ls => if isItem l then ⟨length l, markers l⟩ :: pieces ls else pieces ls

end

end Layout

end GrammarManual
