import GrammarManual.Files.Path

/-!
# Settings/Basic: what a run can be told

Every setting has a default, so none has to be given.
-/

namespace GrammarManual

/-- The settings of a run. -/
structure Settings where
  /-- The rules that are annotated as entry points. -/
  startRules : List String := []
  /-- The greatest width of a line of a rule body. -/
  limit : Int := 120
  /-- How far above a rule its section marker stands: with 1 on the line of the rule itself. -/
  offset : Int := 3
  /-- What a section marker looks like; the group `section` is its name. -/
  pattern : String := "^// SECTION: (?P<section>[ \\w]*?)$"
  /-- Where the blurbs of sections lie. -/
  docsFolder : Path := { parts := ["docs"] }
  deriving DecidableEq, Repr, Inhabited

end GrammarManual
