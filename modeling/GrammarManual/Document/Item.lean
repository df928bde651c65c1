import GrammarManual.Markup.Layout
import GrammarManual.Grammar.Rule

/-!
# Document/Item: one rule of the manual

An `Item` is a rule whose body has been laid out, with the section it opens, if any. Its marks are
those of the body, framed by the name, the colon and the semicolon.
-/

namespace GrammarManual

/-- A rule ready to be written. -/
structure Item where
  rule : Rule
  body : Layout
  /-- The section whose marker stands above the rule. -/
  opens : Option String := none
  deriving Inhabited

namespace Item

/-- The marks of an item. -/
def markers (isStart : Bool) (i : Item) : List Marker :=
  (if isStart then [.remark "start"] else []) ++
    .declaration i.rule.name :: .description :: .whitespace :: .whitespace :: .symbol ":" ::
      .whitespace :: i.body.markers ++ Layout.newLine Layout.alternativeIndent ++
    [.other ";", .endDescription]

end Item

end GrammarManual
