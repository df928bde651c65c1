import GrammarManual.Files.Tree

/-!
# Files/Write: writing a file

A file is written only into a folder that is there. Writing changes one entry of a tree and leaves
all others as they are.
-/

namespace GrammarManual

/-- Why a file is not written. -/
inductive WriteError where
  /-- The path leads to no place. -/
  | astray (why : FileTree.Astray)
  /-- The path leads to a folder. -/
  | isFolder
  | refused (fault : SystemFault)
  deriving DecidableEq, Repr, Inhabited

namespace FileTree

/-- The place that a file at a path is written to. -/
def placeOf (t : FileTree) (p : Path) : Except WriteError (List String) :=
  match t.refusals.write p with
  | some fault => .error (.refused fault)
  | none =>
    match t.reach p with
    | .error why => .error (.astray why)
    | .ok place => if t.entryAt? place = some .folder then .error .isFolder else .ok place

/-- Sets the entry at a place. -/
def set (t : FileTree) (place : List String) (e : FileEntry) : FileTree :=
  { t with entries := (place, e) :: t.entries.filter (·.1 ≠ place) }

/-- Writes a text as a file. -/
def write (t : FileTree) (p : Path) (text : String) : Except WriteError FileTree :=
  (t.placeOf p).map fun place => t.set place (.file (Utf8.encode text.toList))

/-- Adds what was found at the end of some parts, with the folders on the way there. -/
def enter (t : FileTree) (place : List String) (e : FileEntry) : List String → FileTree
  | [] => t.set place e
  | part :: parts =>
    let t := if place = [] then t else t.set place .folder
    enter t (if part = ".." then place.dropLast else place ++ [part]) e parts

/-- Notes that the operating system refuses a path. -/
def refusing (t : FileTree) (p : Path) (fault : SystemFault) : FileTree :=
  let refuse (before : Path → Option SystemFault) (q : Path) :=
    if q = p then some fault else before q
  { t with
    refusals := {
      look := refuse t.refusals.look
      read := refuse t.refusals.read
      write := t.refusals.write } }

end FileTree

end GrammarManual
