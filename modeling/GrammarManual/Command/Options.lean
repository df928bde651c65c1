/-!
# Command/Options: options of a command line

Every option but `--help` takes a value: behind an equals sign (`--format=text`), as the next
argument (`--format text`, `-f text`), or behind its letter (`-ftext`). `--` ends the options.
-/

namespace GrammarManual.Command

/-- The options of a command, by their long names and by their letters. -/
structure Options (α : Type) where
  long : List (String × α)
  letters : List (Char × α)

/-- What an argument is. -/
inductive Use (α : Type) where
  /-- An option with its value. -/
  | given (key : α) (value : String)
  /-- An option whose value is the next argument. -/
  | pending (key : α)
  | help
  /-- The end of the options. -/
  | finish
  | operand
  | unknown
  deriving DecidableEq, Repr, Inhabited

/-- A command line that has been read. -/
structure Given (α : Type) where
  values : List (α × String) := []
  help : Bool := false
  /-- What is no option. -/
  operands : List String := []
  deriving DecidableEq, Repr, Inhabited

namespace Options

variable {α : Type}

/-- An option by its letter, with what follows the letter. -/
def useLetter (o : Options α) : List Char → Use α
  | [] => .unknown
  | c :: rest =>
    match o.letters.lookup c with
    | none => .unknown
    | some key => if rest.isEmpty then .pending key else .given key (String.ofList rest)

/-- What an argument is. -/
def use (o : Options α) (argument : String) : Use α :=
  match argument.toList with
  | ['-', '-'] => .finish
  | '-' :: '-' :: rest =>
    let name := "--" ++ String.ofList (rest.takeWhile (· ≠ '='))
    match rest.dropWhile (· ≠ '='), o.long.lookup name with
    | _ :: value, some key => .given key (String.ofList value)
    | [], some key => .pending key
    | [], none => if name = "--help" then .help else .unknown
    | _ :: _, none => .unknown
  | '-' :: c :: rest => o.useLetter (c :: rest)
  | _ => .operand

/-- Reads a command line. If `mixed`, options may stand behind operands. -/
def read (o : Options α) (mixed : Bool) : List String → Option (Given α)
  | [] => some {}
  | argument :: rest =>
    let add (key : α) (value : String) (r : Option (Given α)) : Option (Given α) :=
      r.map fun g => { g with values := (key, value) :: g.values }
    match o.use argument with
    | .given key value => add key value (read o mixed rest)
    | .pending key =>
      match rest with
      | value :: rest' => add key value (read o mixed rest')
      | [] => none
    | .help => (read o mixed rest).map fun g => { g with help := true }
    | .finish => some { operands := rest }
    | .operand =>
      if mixed then
        (read o mixed rest).map fun g => { g with operands := argument :: g.operands }
      else some { operands := argument :: rest }
    | .unknown => none

end Options

namespace Given

variable {α : Type} [DecidableEq α]

/-- All values of an option, in their order. -/
def all (g : Given α) (key : α) : List String :=
  (g.values.filter fun e => decide (e.1 = key)).map (·.2)

/-- The value of an option, the last one given. -/
def last? (g : Given α) (key : α) : Option String := (g.all key).getLast?

end Given

end GrammarManual.Command
