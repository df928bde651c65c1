import GrammarManual.Command.Run

/-!
# Main: the command line

The files that a run looks at are read first, the manual is drawn up from them, and only then is
anything written.
-/

namespace GrammarManual.Command

/-- What an error of the operating system counts as; `none` is that nothing is there. -/
def faultOf : IO.Error → Option SystemFault
  | .noFileOrDirectory .. => none
  | .inappropriateType .. => none
  | .permissionDenied .. => some .denied
  | .invalidArgument _ 36 _ => some .nameTooLong
  | .invalidArgument _ 40 _ => some .tooManyLinks
  | _ => some (.other 0)

/-- Adds what lies at a path, or that the operating system refuses it. -/
def gatherOne (files : FileTree) (path : Path) : IO FileTree := do
  let place := (← IO.currentDir) / path.toText
  try
    match (← place.metadata).type with
    | .dir => return files.enter [] .folder (files.fromRoot path)
    | _ =>
      let bytes ← IO.FS.readBinFile place
      return files.enter [] (.file bytes.toList) (files.fromRoot path)
  catch e =>
    match faultOf e with
    | some fault => return files.refusing path fault
    | none => return files

/-- The parts of the working directory. -/
def workingFolder : IO (List String) :=
  return (Path.ofString (← IO.currentDir).toString).parts

/-- Adds what lies at some paths. -/
def gather (files : FileTree) (paths : List Path) : IO FileTree := paths.foldlM gatherOne files

/-- Where a stream leads. -/
def outletOf (stream : IO.FS.Stream) : IO Outlet := do
  return if ← stream.isTty then .terminal else .elsewhere

/-- Writes the manual and tells what became of it. -/
def deliver (i : Invocation) (drawing : Drawing) : IO UInt32 := do
  let out ← outletOf (← IO.getStdout)
  let err ← outletOf (← IO.getStderr)
  IO.eprint (Log.toText (Log.shown i.verbosity drawing.log) ++ err.arriving drawing.complaint)
  match drawing.result, i.output with
  | .error (.told _), _ => return 1
  | .error (.failed _), _ =>
    IO.eprint "The manual cannot be drawn up.\n"
    return 1
  | .ok document, none =>
    IO.print (out.arriving document)
    return 0
  | .ok document, some path =>
    IO.FS.writeFile path.toText document
    IO.print (out.arriving (Invocation.writtenNote path))
    return 0

end GrammarManual.Command

open GrammarManual.Command in
/-- Runs a command line. -/
def main (arguments : List String) : IO UInt32 := do
  match Request.ofArguments arguments with
  | .misuse =>
    IO.eprint helpText
    return 2
  | .help =>
    IO.print helpText
    return 0
  | .render i =>
    let here ← workingFolder
    let known ← gather { here } (i.reads { here })
    let files ← gather known (i.reads known)
    deliver i (i.draw files)
