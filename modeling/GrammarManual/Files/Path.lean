/-!
# Files/Path: paths in their normal form

A path is a root, if it has one, and its parts. Reading a path drops empty parts and `.`, keeps
`..`, and keeps two leading slashes apart from one; three and more count as one.
-/

namespace GrammarManual

/-- Where a path starts. -/
inductive PathRoot where
  | relative
  | slash
  | doubleSlash
  deriving DecidableEq, Repr, Inhabited

/-- A path in its normal form. -/
structure Path where
  root : PathRoot := .relative
  parts : List String := []
  deriving DecidableEq, Repr, Inhabited

namespace Path

/-- The pieces of a text between slashes. -/
def splitSlashes : List Char → List (List Char)
  | [] => [[]]
  | '/' :: rest => [] :: splitSlashes rest
  | c :: rest =>
    match splitSlashes rest with
    | [] => [[c]]
    | piece :: pieces => (c :: piece) :: pieces

/-- Reads a path. -/
def ofString (s : String) : Path where
  root :=
    match (s.toList.takeWhile (· = '/')).length with
    | 0 => .relative
    | 2 => .doubleSlash
    | _ => .slash
  parts := ((splitSlashes s.toList).map String.ofList).filter fun p => p ≠ "" ∧ p ≠ "."

/-- Writes a path; the empty path is `.`. -/
def toText (p : Path) : String :=
  let names := String.intercalate "/" p.parts
  match p.root with
  | .relative => if p.parts.isEmpty then "." else names
  | .slash => "/" ++ names
  | .doubleSlash => "//" ++ names

def isAbsolute (p : Path) : Bool := p.root ≠ .relative

/-- The folder that holds the last part. -/
def parent (p : Path) : Path := { p with parts := p.parts.dropLast }

/-- The last part. -/
def fileName (p : Path) : String := p.parts.getLast?.getD ""

/-- A path taken from a folder; an absolute path stays as it is. -/
def join (p q : Path) : Path :=
  if q.isAbsolute then q else { p with parts := p.parts ++ q.parts }

end Path

end GrammarManual
