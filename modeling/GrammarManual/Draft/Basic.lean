import GrammarManual.Markup.Marker

/-!
# Draft/Basic: how a document is drawn up

A document grows by `Stroke`s: sections are opened, items are added, marks are written on items. An
`Easel` is a format that understands them: it has a state, a first state, and the text that a state
stands for. A stroke may fail half done; the state then holds what was done.

Items are numbered in the order they are added, over all documents of an easel. Beginning a new
document leaves the old items writable, but no longer part of what is shown.
-/

namespace GrammarManual

/-- One step in drawing up a document. -/
inductive Stroke where
  /-- Begins a new document. -/
  | begin
  /-- The text that explains the notation. -/
  | preamble (text : String)
  | openSection (name : String) (blurb : Option String)
  /-- What follows belongs to no section. -/
  | leaveSection
  | addItem (helper : Bool)
  | write (item : Nat) (marker : Marker)
  deriving DecidableEq, Repr, Inhabited

/-- Why a stroke fails. -/
inductive StrokeError where
  /-- A text that the format cannot hold. -/
  | unprintable
  deriving DecidableEq, Repr, Inhabited

/-- A format that documents are drawn up in. -/
structure Easel where
  State : Type
  fresh : State
  step : State → Stroke → State × Option StrokeError
  /-- How many items were ever added. -/
  itemCount : State → Nat
  finish : State → String

end GrammarManual
