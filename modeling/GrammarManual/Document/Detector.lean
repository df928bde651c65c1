import GrammarManual.Document.Section
import GrammarManual.Grammar.Rule
import GrammarManual.Pattern.Language
import GrammarManual.Settings.Basic

/-!
# Document/Detector: looking for section markers step by step

`sectionAt` says which section a line opens. A `Detector` finds it out step by step, and every step
may fail: a text may be no pattern, a line may be looked up that is not there, and a group may be
asked for that the pattern does not have. It notes which lines it looks up.

* `Detector.ofText`, `RuleSet.detectors` -- setting up one detector, and those of a rule set;
* `Detector.lookUp`, `Detector.group` -- the steps that may fail;
* `Detector.sectionFor` -- the section that a line opens.
-/

namespace GrammarManual

/-- Why there is no detector, or why it fails. -/
inductive DetectorFault where
  | noPattern (e : PatternError)
  | noLine (index : Int)
  | noGroup (name : String)
  deriving Repr, Inhabited

/-- A search that notes the lines it looks up, counted from 0. -/
abbrev Looking := ExceptT DetectorFault (StateM (List Int))

/-- What looks for the section markers above the rules of one kind. -/
structure Detector where
  lines : List String
  offset : Int
  pattern : Pattern
  deriving Inhabited

namespace Detector

/-- A detector for the markers that a text describes. -/
def ofText [PatternLanguage] (lines : List String) (offset : Int) (text : String) :
    Except DetectorFault Detector :=
  match Pattern.read text with
  | .ok pattern => .ok { lines, offset, pattern }
  | .error e => .error (.noPattern e)

/-- The line at an index. A negative index counts from the end. -/
def lookUp (d : Detector) (index : Int) : Looking String := do
  modify (· ++ [index])
  let place := if index < 0 then index + d.lines.length else index
  if place < 0 then throw (.noLine index)
  match d.lines[place.toNat]? with
  | some line => return line
  | none => throw (.noLine index)

/-- What the group of a name took in a match, if it took part in it. -/
def group (d : Detector) (name : String) (found : Pattern.Match) : Looking (Option String) :=
  if d.pattern.names.contains name then return found name else throw (.noGroup name)

/-- The section that the marker of a line opens; lines are counted from 1. -/
def sectionFor (d : Detector) (line : Int) : Looking (Option String) := do
  let index := line - d.offset
  if index < 0 ∨ d.lines.length ≤ index then return none
  let text ← d.lookUp index
  match d.pattern.search text with
  | some found => d.group "section" found
  | none => return none

end Detector

end GrammarManual
