import GrammarManual.Text.Binary64

/-!
# Settings/Value: values as a settings file holds them
-/

namespace GrammarManual

/-- A value of a settings file. -/
inductive Value where
  | null
  | bool (b : Bool)
  | int (n : Int)
  | float (x : Binary64)
  | text (s : String)
  | list (items : List Value)
  /-- Keys with their values; a key may occur again, and its last value counts. -/
  | table (entries : List (Value × Value))
  /-- A value that no setting can use, such as a date. -/
  | other
  deriving Repr, Inhabited

/-- The value of a key, the last one given. -/
def Value.find? (key : String) (entries : List (Value × Value)) : Option Value :=
  entries.foldl (fun found (k, v) =>
    match k with
    | .text s => if s = key then some v else found
    | _ => found) none

end GrammarManual
