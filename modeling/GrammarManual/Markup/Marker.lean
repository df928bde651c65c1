/-!
# Markup/Marker: the marks an item is written with

An item of the manual is a list of `Marker`s. Every backend reads the same marks; none of them is
text of one format.
-/

namespace GrammarManual

/-- One mark of an item. -/
inductive Marker where
  /-- One blank inside a rule body. -/
  | whitespace
  /-- A line break inside a rule body; indentation follows as whitespace. -/
  | lineBreak
  /-- Notation such as `(`, `|` or `*`. -/
  | symbol (text : String)
  /-- Literal text of the grammar. -/
  | string (text : String)
  /-- A reference to another declaration. -/
  | identifier (name : String)
  | other (text : String)
  /-- A remark on the declaration, such as `start` or `helper`. -/
  | remark (text : String)
  /-- The declared name. -/
  | declaration (name : String)
  /-- The rules that refer to the declaration. -/
  | usages (names : List String)
  /-- The body begins. -/
  | description
  /-- The innermost open body ends. -/
  | endDescription
  deriving DecidableEq, Repr, Inhabited

end GrammarManual
