/-!
# Grammar/Expr: what a grammar rule says

A rule body is an extended BNF expression. This file holds

* `Repetition`: the three suffixes `?`, `+`, `*`;
* `Expr`: the expressions, as a plain tree. A tree built by hand may nest in ways that no written
  grammar does (a choice that holds a reference directly, say); the functions on `Expr` are total
  on all of them;
* `Expr.foreign`: the place of a value that is no grammar expression. No reader builds it; a walk
  over the tree reports it.
-/

namespace GrammarManual

/-- How often the operand of a suffix may occur. -/
inductive Repetition where
  | optional
  | oneOrMore
  | zeroOrMore
  deriving DecidableEq, Repr, Inhabited

/-- The suffix that writes a repetition. -/
def Repetition.sign : Repetition → String
  | .optional => "?"
  | .oneOrMore => "+"
  | .zeroOrMore => "*"

/-- An expression of a rule body. -/
inductive Expr where
  /-- One alternative: its items follow each other. -/
  | sequence (items : List Expr)
  /-- A group of alternatives, in parentheses or as a whole rule body. -/
  | choice (alternatives : List Expr)
  /-- A set of single tokens, as it stands behind a negation. -/
  | tokenSet (members : List Expr)
  /-- An operand with a suffix; a lazy suffix carries one more `?`. -/
  | repeated (operand : Expr) (times : Repetition) (greedy : Bool)
  | negated (operand : Expr)
  /-- A character range between two literals. -/
  | range (first last : Expr)
  /-- The name of a rule or token. -/
  | reference (name : String)
  /-- A quoted text; the quotes belong to `text`. -/
  | literal (text : String)
  /-- A bracketed character set; the brackets do not belong to `text`. -/
  | charset (text : String)
  | wildcard
  | predicate (code : String)
  /-- An embedded action or a lexer command. -/
  | action (code : String)
  /-- A value that is no grammar expression. -/
  | foreign
  deriving Repr, Inhabited

end GrammarManual
