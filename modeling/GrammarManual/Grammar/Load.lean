import GrammarManual.Files.Tree
import GrammarManual.G4.Grammar
import GrammarManual.Log

/-!
# Grammar/Load: the rule set of one or two grammar files

A combined grammar is split by the first letter of its rule names; a pair of files gives one table
each. No table may declare a name twice. Loading leaves messages, also when it fails.
-/

namespace GrammarManual

/-- Why grammar files give no rule set. -/
inductive LoadError where
  | notFound (path : Path)
  | unreadable (e : ReadError)
  | noGrammar (path : Path) (e : G4Error)
  | declaredTwice (path : Path) (line : Int) (name : String)
  deriving Repr, Inhabited

/-- The wording of a load error; a file that is no text is described by its fault. -/
def LoadError.message : LoadError → String
  | .notFound path => "File not found: " ++ path.toText
  | .unreadable (.undecodable fault) => fault.message
  | .unreadable _ => ""
  | .noGrammar path e => e.message path.toText
  | .declaredTwice path line name =>
    path.toText ++ ":" ++ toString line ++ ": rule '" ++ name ++ "' is declared twice"

/-- Loading, with the messages it leaves. -/
structure Loaded where
  log : List Message := []
  result : Except LoadError RuleSet

namespace Grammar

/-- Declares rules in a table; a name that is taken is an error. -/
def declareAll (path : Path) : RuleTable → List Rule → Except LoadError RuleTable
  | t, [] => .ok t
  | t, r :: rs =>
    if h : t.declares r.name = false then declareAll path (t.add r h) rs
    else .error (.declaredTwice path r.line r.name)

/-- A grammar file that has been read, with its lines. -/
structure FromFile where
  grammar : Grammar
  lines : List String

/-- Reads a grammar file. -/
def ofFile (files : FileTree) (path : Path) : Except LoadError FromFile :=
  match files.isFile path with
  | .error fault => .error (.unreadable (.refused fault))
  | .ok false => .error (.notFound path)
  | .ok true => do
    let text ← (files.read path).mapError .unreadable
    let grammar ← (Grammar.read text).mapError (.noGrammar path)
    return { grammar, lines := (Text.splitLines text).map String.ofList }

/-- What is said of a grammar that declares itself to be of another kind. -/
def kindNote (g : Grammar) (used : G4.GrammarKind) (path : Path) : List Message :=
  match g.kind with
  | some kind =>
    if kind = used then []
    else
      [⟨.warning, path.toText ++ " declares a " ++ kind.keyword ++ " grammar, used as the "
        ++ used.keyword ++ " grammar"⟩]
  | none => []

/-- What is said of a rule set that has been loaded. -/
def loadedNote (g : RuleSet) (parserPath : Path) (lexerPath : Option Path) : Message :=
  ⟨.progress, "Loaded " ++ toString g.parserRules.rules.length ++ " parser and "
    ++ toString g.lexerRules.rules.length ++ " lexer rules from " ++ parserPath.fileName
    ++ lexerPath.elim "" fun p => " and " ++ p.fileName⟩

/-- The rule set of a combined grammar. -/
def combined (path : Path) (f : FromFile) : Except LoadError RuleSet := do
  let lexerRules ← declareAll path .empty (f.grammar.rules.filter Rule.isLexer)
  let parserRules ← declareAll path .empty (f.grammar.rules.filter fun r => !r.isLexer)
  return { lexerRules, parserRules, lexerLines := f.lines, parserLines := f.lines }

/-- The rule set of a pair of grammars. -/
def paired (parserPath lexerPath : Path) (parser lexer : FromFile) : Except LoadError RuleSet := do
  let lexerRules ← declareAll lexerPath .empty lexer.grammar.rules
  let parserRules ← declareAll parserPath .empty parser.grammar.rules
  return { lexerRules, parserRules, lexerLines := lexer.lines, parserLines := parser.lines }

/-- Ends loading with the note on the rule set, if there is one. -/
def finishLoad (log : List Message) (parserPath : Path) (lexerPath : Option Path)
    (result : Except LoadError RuleSet) : Loaded :=
  match result with
  | .error e => { log, result := .error e }
  | .ok g => { log := log ++ [loadedNote g parserPath lexerPath], result := .ok g }

end Grammar

open Grammar in
/-- Loads the grammars to document: a combined one, or a parser and a lexer grammar. -/
def RuleSet.load (files : FileTree) (parserPath : Path) (lexerPath : Option Path) : Loaded :=
  match ofFile files parserPath with
  | .error e => { result := .error e }
  | .ok parser =>
    match lexerPath with
    | none => finishLoad [] parserPath none (combined parserPath parser)
    | some lexerPath =>
      match ofFile files lexerPath with
      | .error e => { result := .error e }
      | .ok lexer =>
        finishLoad (kindNote lexer.grammar .lexer lexerPath ++
            kindNote parser.grammar .parser parserPath)
          parserPath (some lexerPath) (paired parserPath lexerPath parser lexer)

end GrammarManual
