import GrammarManual.Files.Tree
import GrammarManual.Settings.Validate
import GrammarManual.Yaml.Value

/-!
# Settings/File: settings from a file

A settings file is a YAML mapping. `Settings.load` reads the file at a path; a relative docs folder
in it counts from the folder of the file. `Settings.discover` says which file counts: the one that
is named, or else the first one that is there, beside the grammar or in the working directory;
without any the settings are the default ones.
-/

namespace GrammarManual

/-- Why a settings file gives no settings. -/
inductive SettingsError where
  | missing (path : Path)
  | isFolder
  | refused (fault : SystemFault)
  | undecodable (fault : Utf8Fault)
  | unread (e : Yaml.YamlError)
  | noMapping
  | invalid (path : Path) (complaints : List Complaint)
  /-- A pattern with too large a number. -/
  | overflow
  deriving DecidableEq, Repr, Inhabited

/-- The wording of an error, as far as it has one of its own. -/
def SettingsError.message : SettingsError → Option String
  | .missing path => some ("Config file not found: " ++ path.toText)
  | .isFolder => none
  | .refused _ => none
  | .undecodable fault => some fault.message
  | .unread e => some (e.message.getD "Failed to parse config YAML:")
  | .noMapping => some "Config must contain a mapping at the root level"
  | .invalid path complaints =>
    some ("Invalid config " ++ path.toText ++ ": " ++ toString complaints.length
      ++ (if complaints.length = 1 then " validation error" else " validation errors")
      ++ " for UnifiedConfig")
  | .overflow => none

/-- What a file without a text is as a settings file. -/
def SettingsError.ofRead (path : Path) : ReadError → SettingsError
  | .missing => .missing path
  | .isFolder => .isFolder
  | .refused fault => .refused fault
  | .undecodable fault => .undecodable fault.whileReading

namespace Settings

/-- The name of a settings file that is not named otherwise. -/
def fileName : String := "grammardoc_config.yaml"

/-- The settings that a value at the root of a file gives. A file that holds nothing leaves
    everything at its default. -/
def ofRoot [PatternLanguage] (path : Path) : Value → Except SettingsError Settings
  | .null => .ok {}
  | .table entries =>
    match ofValue (.table entries) with
    | .ok s => .ok { s with docsFolder := path.parent.join s.docsFolder }
    | .error complaints =>
      if complaints.any fun c => c.problem = .overflow then .error .overflow
      else .error (.invalid path complaints)
  | _ => .error .noMapping

/-- Reads the settings file at a path. -/
def load [PatternLanguage] (files : FileTree) (path : Path) : Except SettingsError Settings :=
  match files.contains path with
  | .error fault => .error (.refused fault)
  | .ok false => .error (.missing path)
  | .ok true =>
    match files.read path with
    | .error e => .error (.ofRead path e)
    | .ok text =>
      match Yaml.read text with
      | .ok v => ofRoot path v
      | .error e => .error (.unread e)

/-- Where settings files are looked for: beside the grammar, and in the working directory. -/
def candidates (grammar : Option Path) : List Path :=
  (grammar.map fun g => g.parent.join (Path.ofString fileName)).toList ++ [Path.ofString fileName]

/-- The settings that count. A settings file may be named for one use (`explicit`) or for the whole
    run (`chosen`). -/
def discover [PatternLanguage] (files : FileTree) (grammar explicit chosen : Option Path) :
    Except SettingsError Settings :=
  match explicit.orElse fun _ => chosen with
  | some path => load files path
  | none =>
    match files.firstOf (candidates grammar) with
    | .error fault => .error (.refused fault)
    | .ok (some path) => load files path
    | .ok none => .ok {}

end Settings

end GrammarManual
