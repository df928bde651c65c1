import GrammarManual.Text.Template

/-!
# Log: messages of a run

A run leaves a list of `Message`s, each with a `Level`. What a reader gets to see is decided by a
threshold alone (`Log.shown`), never by the run: the messages at a lower verbosity are a sublist of
those at a higher one.

`Logger` is the switchable logger: it has a threshold, an outlet or none, and the messages that were
written.
-/

namespace GrammarManual

/-- How weighty a message is. -/
inductive Level where
  | debug
  /-- Why the output looks the way it does. -/
  | details
  | info
  /-- What a pass did. -/
  | progress
  | warning
  | error
  | critical
  deriving DecidableEq, Repr, Inhabited

namespace Level

/-- The weight of a level. -/
def weight : Level → Nat
  | .debug => 10
  | .details => 15
  | .info => 20
  | .progress => 25
  | .warning => 30
  | .error => 40
  | .critical => 50

/-- What stands before a message; warnings and worse are labelled. -/
def label : Level → String
  | .warning => "warning: "
  | .error => "error: "
  | .critical => "critical: "
  | _ => ""

end Level

/-- One message of a run. -/
structure Message where
  level : Level
  text : String
  deriving DecidableEq, Repr, Inhabited

/-- A message as it is written. -/
def Message.toText (m : Message) : String := m.level.label ++ m.text

/-- The least weight shown at a verbosity: errors only at 0 and below, everything from 3 on. -/
def threshold (verbosity : Int) : Nat :=
  if verbosity ≤ 0 then Level.error.weight
  else if verbosity = 1 then Level.progress.weight
  else if verbosity = 2 then Level.details.weight
  else Level.debug.weight

namespace Log

/-- The messages shown at a verbosity. -/
def shown (verbosity : Int) (log : List Message) : List Message :=
  log.filter fun m => threshold verbosity ≤ m.level.weight

/-- Messages as they are written, a line end behind each. -/
def toText (log : List Message) : String :=
  String.join (log.map fun m => m.toText ++ "\n")

end Log

/-! ## The switchable logger -/

/-- A logger with a threshold and an outlet that may be closed. -/
structure Logger where
  least : Nat := Level.error.weight
  isOpen : Bool := false
  /-- The messages that were written. -/
  messages : List Message := []
  deriving DecidableEq, Repr, Inhabited

namespace Logger

/-- All that was written. -/
def written (l : Logger) : String := Log.toText l.messages

/-- Opens the outlet and sets the threshold. -/
def setup (l : Logger) (verbosity : Int) : Logger :=
  { l with least := threshold verbosity, isOpen := true }

/-- Closes the outlet and goes back to errors only. -/
def reset (l : Logger) : Logger := { l with least := Level.error.weight, isOpen := false }

/-- Whether details are shown. -/
def showsDetails (l : Logger) : Bool := l.least ≤ Level.details.weight

/-- Logs a message. Without arguments the text is written as it stands; arguments that do not fit
    the placeholders leave nothing written. -/
def log (l : Logger) (level : Level) (text : String) (args : List Argument) : Logger :=
  let filled := if args.isEmpty then some text else Template.fill text args
  match filled with
  | some s =>
    if l.least ≤ level.weight && l.isOpen then
      { l with messages := l.messages ++ [⟨level, s⟩] }
    else l
  | none => l

end Logger

end GrammarManual
