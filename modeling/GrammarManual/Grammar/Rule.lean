import GrammarManual.Grammar.Expr
import GrammarManual.Text.Letter

/-!
# Grammar/Rule: named rules and tables of them

* `Rule`: a declaration, with the line its name stands on;
* `RuleTable`: declarations in order, no two of one name (an invariant of the type);
* `RuleSet`: the lexer and the parser table of a grammar, with the source lines of each;
* `literalIndex`: which token stands for which literal.
-/

namespace GrammarManual

/-- A named declaration. -/
structure Rule where
  name : String
  body : Expr
  /-- The line of the name, counted from 1. -/
  line : Int := 1
  fragment : Bool := false
  deriving Repr, Inhabited

namespace Rule

/-- Lexer rules are told from parser rules by an upper case first letter. -/
def isLexer (r : Rule) : Bool :=
  match r.name.toList with
  | [] => false
  | c :: _ => Letter.isUpper c

/-- The literal a rule consists of, if its body is one literal and nothing else. -/
def singleLiteral? (r : Rule) : Option String :=
  match r.body with
  | .choice [.sequence [.literal text]] => some text
  | _ => none

end Rule

/-- Declarations in order, no name twice. -/
structure RuleTable where
  rules : List Rule
  distinct : (rules.map Rule.name).Nodup

namespace RuleTable

/-- The table without rules. -/
def empty : RuleTable := ⟨[], List.nodup_nil⟩

instance : Inhabited RuleTable := ⟨empty⟩

/-- The declared names, in order. -/
def names (t : RuleTable) : List String := t.rules.map Rule.name

/-- Whether a name is declared. -/
def declares (t : RuleTable) (name : String) : Bool := t.names.contains name

/-- Appends a rule of a new name. -/
def add (t : RuleTable) (r : Rule) (fresh : t.declares r.name = false) : RuleTable where
  rules := t.rules ++ [r]
  distinct := by
    have hn : r.name ∉ t.rules.map Rule.name := by
      intro hm
      rw [declares, names, List.contains_iff_mem.mpr hm] at fresh
      cases fresh
    rw [List.map_append, List.map_singleton, List.nodup_append]
    refine ⟨t.distinct, List.pairwise_singleton _ _, ?_⟩
    intro a ha b hb
    cases List.mem_singleton.mp hb
    rintro rfl
    exact hn ha

private theorem map_name_replace (l : List Rule) (r : Rule) :
    (l.map fun s => if s.name = r.name then r else s).map Rule.name = l.map Rule.name := by
  rw [List.map_map]
  apply List.map_congr_left
  intro s _
  by_cases h : s.name = r.name <;> simp [h]

/-- Puts `r` in the place of the rule of its name. -/
def replace (t : RuleTable) (r : Rule) : RuleTable where
  rules := t.rules.map fun s => if s.name = r.name then r else s
  distinct := by rw [map_name_replace]; exact t.distinct

/-- Declares a rule; a rule of the same name gives way and leaves its place. -/
def put (t : RuleTable) (r : Rule) : RuleTable :=
  if h : t.declares r.name = true then t.replace r else t.add r (by simpa using h)

/-- Declares all rules of a list, in order. -/
def ofList (rs : List Rule) : RuleTable := rs.foldl put empty

end RuleTable

/-- Where a rule was declared. -/
inductive Mode where
  | lexer
  | parser
  deriving DecidableEq, Repr, Inhabited

/-- Lexer and parser rules with the source lines they were read from. -/
structure RuleSet where
  lexerRules : RuleTable := .empty
  parserRules : RuleTable := .empty
  lexerLines : List String := []
  parserLines : List String := []

namespace RuleSet

instance : Inhabited RuleSet := ⟨{}⟩

/-- The rules of one mode. -/
def table (g : RuleSet) : Mode → RuleTable
  | .lexer => g.lexerRules
  | .parser => g.parserRules

/-- The source lines of one mode. -/
def lines (g : RuleSet) : Mode → List String
  | .lexer => g.lexerLines
  | .parser => g.parserLines

/-- All declared names, lexer rules first. -/
def names (g : RuleSet) : List String := g.lexerRules.names ++ g.parserRules.names

end RuleSet

/-- Which token rule matches exactly which literal, the first rule of a literal only. -/
abbrev LiteralIndex := List (String × String)

namespace LiteralIndex

/-- The token of a literal. -/
def token? (i : LiteralIndex) (literal : String) : Option String := List.lookup literal i

/-- Adds a literal that is not yet in the index. -/
def note (i : LiteralIndex) (literal name : String) : LiteralIndex :=
  if (i.token? literal).isSome then i else i ++ [(literal, name)]

/-- The index of a list of lexer rules. Fragments are left out: no parser rule can use them. -/
def ofRules (rs : List Rule) : LiteralIndex :=
  rs.foldl (fun i r =>
    match r.fragment, r.singleLiteral? with
    | false, some literal => i.note literal r.name
    | _, _ => i) []

end LiteralIndex

end GrammarManual
