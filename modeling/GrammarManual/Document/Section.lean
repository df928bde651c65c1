import GrammarManual.Files.Tree
import GrammarManual.Log
import GrammarManual.Pattern.Basic

/-!
# Document/Section: section markers and their blurbs

* `sectionAt` finds the section that a line opens: the marker stands a fixed number of lines above
  it, and the `section` group of the pattern is its name;
* `blurbPath` and `readBlurb` give the text that introduces a section. A missing file is no error.
-/

namespace GrammarManual

/-- The section declared for a line, counted from 1. With offset 1 the line itself is searched,
    with offset `n` the line `n - 1` above it. -/
def sectionAt (pattern : Pattern) (lines : List String) (offset line : Int) : Option String :=
  let index := line - offset
  if index < 0 then none
  else lines[index.toNat]?.bind (pattern.searchGroup "section")

/-- Where the blurb of a section lies. -/
def blurbPath (docsFolder : Path) (name : String) : Path :=
  docsFolder.join (Path.ofString (name ++ ".txt"))

/-- The blurb of a section, if there is a file for it. -/
def readBlurb (files : FileTree) (docsFolder : Path) (name : String) :
    Except ReadError (Option String) :=
  let path := blurbPath docsFolder name
  match files.isFile path with
  | .error fault => .error (.refused fault)
  | .ok false => .ok none
  | .ok true => (files.read path).map fun s => some (String.ofList s)

/-- What is said of a section without a blurb. -/
def noBlurb (docsFolder : Path) (name : String) : Message :=
  ⟨.debug, "No documentation for section '" ++ name ++ "' at "
    ++ (blurbPath docsFolder name).toText⟩

end GrammarManual
