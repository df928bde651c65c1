import GrammarManual.Files.Path
import GrammarManual.Text.Lines
import GrammarManual.Text.Utf8

/-!
# Files/Tree: the files a run sees

A `FileTree` is what lies below the root: folders, files with their bytes, and links. Absolute paths
start at the root, relative ones in the working directory.

* `FileTree.reach` follows a path to its place, and `FileTree.lookup` says what lies there;
* `FileTree.look` is what the operating system says of a path. It may refuse to answer, and some of
  its refusals count as "nothing is there";
* `FileTree.read` gives the text of a file.
-/

namespace GrammarManual

/-! ## 1. Trees -/

/-- What lies at a place. -/
inductive FileEntry where
  | folder
  | file (bytes : List UInt8)
  /-- A link to where another path leads; a relative one counts from the folder of the link. -/
  | link (target : Path)
  deriving DecidableEq, Repr, Inhabited

/-- Whether an entry is a file. -/
def FileEntry.isFile : FileEntry → Bool
  | .file _ => true
  | _ => false

/-- What the operating system answers in place of what it is asked for. -/
inductive SystemFault where
  | denied
  | nameTooLong
  | tooManyLinks
  | badDescriptor
  /-- Any other error, by its number. -/
  | other (code : Nat)
  deriving DecidableEq, Repr, Inhabited

/-- Whether an answer counts as that nothing is there. -/
def SystemFault.isAbsence : SystemFault → Bool
  | .tooManyLinks => true
  | .badDescriptor => true
  | _ => false

/-- What the operating system refuses: to say what lies at a path, to read from it, or to open it
    for writing. -/
structure Refusals where
  look : Path → Option SystemFault := fun _ => none
  read : Path → Option SystemFault := fun _ => none
  write : Path → Option SystemFault := fun _ => none
  deriving Inhabited

/-- Why a file gives no text. -/
inductive ReadError where
  | missing
  | isFolder
  | refused (fault : SystemFault)
  | undecodable (fault : Utf8Fault)
  deriving DecidableEq, Repr, Inhabited

/-- What lies below the root, by the parts of its paths. A folder that holds an entry need not be
    listed. -/
structure FileTree where
  entries : List (List String × FileEntry) := []
  /-- The working directory. -/
  here : List String := []
  refusals : Refusals := {}
  deriving Inhabited

namespace FileTree

/-- The entry at a place. The working directory and everything above it are folders. -/
def entryAt? (t : FileTree) (place : List String) : Option FileEntry :=
  if place.isPrefixOf t.here then some .folder
  else
    match t.entries.lookup place with
    | some e => some e
    | none => if t.entries.any (fun e => place.isPrefixOf e.1) then some .folder else none

/-! ## 2. Following paths -/

/-- Why a path leads to no place. -/
inductive Astray where
  /-- A folder on the way is not there. -/
  | noFolder
  /-- A file stands where a folder must. -/
  | throughFile
  | tooManyLinks
  deriving DecidableEq, Repr, Inhabited

/-- Follows parts from a place. Every part but the last must be a folder; above the root is the
    root. At a link, `jump` goes on from another place. -/
def followWith (t : FileTree)
    (jump : List String → List String → Except Astray (List String)) (place : List String) :
    List String → Except Astray (List String)
  | [] => .ok place
  | part :: parts =>
    match t.entryAt? place with
    | none => .error .noFolder
    | some .folder =>
      if part = ".." then followWith t jump place.dropLast parts
      else
        match t.entryAt? (place ++ [part]) with
        | some (.link target) =>
          jump (if target.isAbsolute then [] else place) (target.parts ++ parts)
        | _ => followWith t jump (place ++ [part]) parts
    | some _ => .error .throughFile

/-- Follows parts from a place, over so many links at most. -/
def follow (t : FileTree) : Nat → List String → List String → Except Astray (List String)
  | 0 => t.followWith fun _ _ => .error .tooManyLinks
  | links + 1 => t.followWith (follow t links)

/-- How many links a path may lead over. -/
def linkLimit : Nat := 40

/-- The parts of a path from the root on. -/
def fromRoot (t : FileTree) (p : Path) : List String :=
  if p.isAbsolute then p.parts else t.here ++ p.parts

/-- The place that a path leads to. What lies there is no link, and need not be there at all. -/
def reach (t : FileTree) (p : Path) : Except Astray (List String) :=
  t.follow linkLimit [] (t.fromRoot p)

/-- What a path leads to. -/
def lookup (t : FileTree) (p : Path) : Option FileEntry :=
  (t.reach p).toOption.bind t.entryAt?

/-! ## 3. Looking -/

/-- What the operating system says of a path. -/
def look (t : FileTree) (p : Path) : Except SystemFault (Option FileEntry) :=
  match t.refusals.look p with
  | none => .ok (t.lookup p)
  | some fault => if fault.isAbsence then .ok none else .error fault

/-- Whether a path leads anywhere. -/
def contains (t : FileTree) (p : Path) : Except SystemFault Bool :=
  (t.look p).map Option.isSome

/-- Whether a path leads to a file. -/
def isFile (t : FileTree) (p : Path) : Except SystemFault Bool :=
  (t.look p).map fun e => e.any FileEntry.isFile

/-- The first of some paths that leads anywhere. -/
def firstOf (t : FileTree) : List Path → Except SystemFault (Option Path)
  | [] => .ok none
  | p :: ps => do if ← t.contains p then return some p else firstOf t ps

/-! ## 4. Reading -/

/-- The text of a file, with unified newlines. -/
def read (t : FileTree) (p : Path) : Except ReadError (List Char) :=
  match t.refusals.read p with
  | some fault => .error (.refused fault)
  | none =>
    match t.lookup p with
    | some (.file bytes) =>
      match Utf8.decode bytes with
      | .ok s => .ok (Text.unifyNewlines s)
      | .error fault => .error (.undecodable fault)
    | some .folder => .error .isFolder
    | _ => .error .missing

/-! ## 5. Limits -/

/-- Whether a path, or a name that a folder is asked for on its way, has too many bytes. -/
def tooLong (t : FileTree) (name path : Nat) (p : Path) : Bool :=
  path < p.toText.utf8ByteSize ||
    (List.range p.parts.length).any fun n =>
      name < (p.parts.getD n "").utf8ByteSize &&
        t.lookup { p with parts := p.parts.take n } = some .folder

/-- A tree in a system that refuses names and paths of too many bytes. -/
def limited (t : FileTree) (name path : Nat) : FileTree :=
  let refuse (p : Path) := if t.tooLong name path p then some SystemFault.nameTooLong else none
  { t with refusals := { look := refuse, read := refuse, write := refuse } }

end FileTree

end GrammarManual
