import GrammarManual.Pattern.Language
import GrammarManual.Settings.Basic
import GrammarManual.Settings.Value

/-!
# Settings/Validate: from values to settings

Values are taken leniently: a number may be written as a text, a float without fraction or a truth
value. Everything that does not fit is reported, not only the first; unknown keys are ignored.

Every `Settings` that `Settings.ofValue` returns has a limit and an offset of at least 1 and a
pattern with a group named `section`.
-/

namespace GrammarManual

/-! ## 1. Complaints -/

/-- One step on the way to a value. -/
inductive Key where
  | name (s : String)
  | index (n : Nat)
  deriving DecidableEq, Repr, Inhabited

/-- What is wrong with a value. -/
inductive Problem where
  | noList
  | noText
  | noTable
  | noInteger
  | noNumeral
  | hugeInteger
  | fraction
  | notFinite
  | tooSmall
  | noPath
  | noPattern
  /-- A pattern that is refused like any wrong value. -/
  | noPatternValue (fault : PatternFault)
  /-- A pattern with too large a number. It breaks the check off. -/
  | overflow
  | noSectionGroup
  deriving DecidableEq, Repr, Inhabited

/-- A problem and where it is. -/
structure Complaint where
  place : List Key
  problem : Problem
  deriving DecidableEq, Repr, Inhabited

/-- The name of a problem. -/
def Problem.name : Problem → String
  | .noList => "list_type"
  | .noText => "string_type"
  | .noTable => "model_type"
  | .noInteger => "int_type"
  | .noNumeral => "int_parsing"
  | .hugeInteger => "int_parsing_size"
  | .fraction => "int_from_float"
  | .notFinite => "finite_number"
  | .tooSmall => "greater_than_equal"
  | .noPath => "path_type"
  | .noPattern => "value_error"
  | .noPatternValue _ => "value_error"
  | .overflow => PatternFault.Kind.overflow.name
  | .noSectionGroup => "value_error"

/-- The wording of the problems that the patterns of sections have. -/
def Problem.remark : Problem → Option String
  | .noPattern => some "Value error, Invalid section pattern:"
  | .noPatternValue fault => some ("Value error, " ++ fault.message)
  | .noSectionGroup => some "Value error, Section pattern must define a named group 'section'"
  | _ => none

/-- What a pattern with a fault is as a value. -/
def Problem.ofPattern (fault : PatternFault) : Problem :=
  match fault.kind with
  | .pattern => .noPattern
  | .value => .noPatternValue fault
  | .overflow => .overflow

/-- The value, or all that is wrong with it. -/
abbrev Checked (α : Type) := Except (List Complaint) α

namespace Checked

variable {α β γ : Type}

/-- Both values, or the complaints about both. -/
def both (f : α → β → γ) : Checked α → Checked β → Checked γ
  | .ok a, .ok b => .ok (f a b)
  | .error es, .ok _ => .error es
  | .ok _, .error es => .error es
  | .error es, .error es' => .error (es ++ es')

/-- A single complaint about the value itself. -/
def complain (p : Problem) : Checked α := .error [⟨[], p⟩]

/-- The complaints as they are seen from outside. -/
def under (key : Key) (c : Checked α) : Checked α :=
  c.mapError fun es => es.map fun e => { e with place := key :: e.place }

end Checked

/-! ## 2. Integers -/

namespace Numeral

/-- Blanks around a numeral. -/
def isPadding (c : Char) : Bool := isBlank c && !(0x1c ≤ c.toNat && c.toNat ≤ 0x1f)

/-- Digits with single underscores between them. -/
def digits : List Char → Option (List Char)
  | [] => none
  | [c] => if c.isDigit then some [c] else none
  | c :: '_' :: rest => if c.isDigit then (digits rest).map (c :: ·) else none
  | c :: rest => if c.isDigit then (digits rest).map (c :: ·) else none

/-- A numeral without sign: digits, then perhaps a point and zeros. -/
def magnitude (s : List Char) : Option Nat :=
  let whole := s.takeWhile (· ≠ '.')
  let fraction := (s.dropWhile (· ≠ '.')).drop 1
  if fraction.all (· = '0') then
    (digits whole).map fun ds => ds.foldl (fun n c => n * 10 + (c.toNat - '0'.toNat)) 0
  else none

/-- The integer that a text writes. -/
def read (s : String) : Option Int :=
  match Text.dropEndWhile isPadding (s.toList.dropWhile isPadding) with
  | '-' :: rest => (magnitude rest).map fun n => -(n : Int)
  | '+' :: rest => (magnitude rest).map fun n => (n : Int)
  | rest => (magnitude rest).map fun n => (n : Int)

end Numeral

namespace Value

/-- A value as an integer. -/
def toInteger : Value → Checked Int
  | .int n => .ok n
  | .bool b => .ok (if b then 1 else 0)
  | .float (.finite m e) =>
    match (Binary64.finite m e).toInt? with
    | none => Checked.complain .fraction
    | some n => if n.natAbs < Nat.pow 2 63 then .ok n else Checked.complain .hugeInteger
  | .float _ => Checked.complain .notFinite
  | .text s => (Numeral.read s).elim (Checked.complain .noNumeral) .ok
  | _ => Checked.complain .noInteger

/-- A value as an integer of at least 1. -/
def toPositive (v : Value) : Checked Int := do
  let n ← v.toInteger
  if n < 1 then Checked.complain .tooSmall else return n

/-- A value as a text. -/
def toText : Value → Checked String
  | .text s => .ok s
  | _ => Checked.complain .noText

/-- A value as a path. -/
def toPath : Value → Checked Path
  | .text s => .ok (Path.ofString s)
  | _ => Checked.complain .noPath

/-- A value as a section pattern. -/
def toSectionPattern [PatternLanguage] (v : Value) : Checked String := do
  let s ← v.toText
  match Pattern.read s with
  | .error e => Checked.complain (.ofPattern e.fault)
  | .ok p =>
    if p.names.contains "section" then return s else Checked.complain .noSectionGroup

/-- Values as texts, counted from `n`. -/
def toTexts (n : Nat) : List Value → Checked (List String)
  | [] => .ok []
  | v :: vs => Checked.both List.cons (Checked.under (.index n) v.toText) (toTexts (n + 1) vs)

/-- A value as a list of texts. -/
def toTextList : Value → Checked (List String)
  | .list items => toTexts 0 items
  | _ => Checked.complain .noList

/-- A value as a table. -/
def toTable : Value → Checked (List (Value × Value))
  | .table entries => .ok entries
  | _ => Checked.complain .noTable

/-- The value of a key, or a default if it is not given. -/
def field {α : Type} (entries : List (Value × Value)) (key : String) (default : α)
    (read : Value → Checked α) : Checked α :=
  match find? key entries with
  | none => .ok default
  | some v => Checked.under (.name key) (read v)

end Value

/-! ## 3. Settings -/

namespace Settings

/-- The layout part of settings. -/
def layoutOfValue (v : Value) : Checked Int := do
  let entries ← v.toTable
  Value.field entries "length_for_rule_split" ({} : Settings).limit Value.toPositive

/-- The section part of settings: offset, pattern and folder. -/
def sectionsOfValue [PatternLanguage] (v : Value) : Checked (Int × String × Path) := do
  let entries ← v.toTable
  let d : Settings := {}
  Checked.both Prod.mk
    (Value.field entries "declaration_offset" d.offset Value.toPositive)
    (Checked.both Prod.mk
      (Value.field entries "pattern" d.pattern Value.toSectionPattern)
      (Value.field entries "docs_folder" d.docsFolder Value.toPath))

/-- Settings from a value. -/
def ofValue [PatternLanguage] (v : Value) : Checked Settings := do
  let entries ← v.toTable
  let d : Settings := {}
  Checked.both (fun startRules ((limit, offset, pattern, docsFolder) : Int × Int × String × Path) =>
      { startRules, limit, offset, pattern, docsFolder })
    (Value.field entries "start_rules" d.startRules Value.toTextList)
    (Checked.both Prod.mk
      (Value.field entries "layout" d.limit layoutOfValue)
      (Value.field entries "sections" (d.offset, d.pattern, d.docsFolder) sectionsOfValue))

end Settings

end GrammarManual
