import GrammarManual.G4.Token
import GrammarManual.Grammar.Rule

/-!
# G4/Reader: rules and bodies of a grammar file

The readers follow the shape of the notation. What has no place in a manual is read and dropped:
options, named actions, arguments, labels, exception handlers.

Three places take a decision:

* a label wins over a reference, a predicate over an action, a range over a literal;
* a declaration that begins with `fragment` is first tried as a fragment (so `fragmentfoo: …`
  declares the fragment `foo`);
* brackets behind a lower case reference are its argument if the reference is the first element of
  its alternative, if they break a line, or if options or a suffix follow; else they are a
  character set of their own.
-/

namespace GrammarManual.G4

open Reader

/-! ## 1. Words -/

/-- Reads a fixed text. -/
def word (text : String) : Reader String := token (Scan.exactly text.toList)

/-- Reads a name of either kind. -/
def identifier : Reader String := (token Scan.upperName).or (token Scan.lowerName)

/-- Reads things with a separator between them. -/
def separated {α : Type} (separator : String) (p : Reader α) : Reader (List α) := do
  let first ← p
  let more ← many (do let _ ← word separator; p)
  return first :: more

/-! ## 2. Elements -/

/-- The repetition that the first character of a suffix writes. -/
def repetitionOf : Char → Repetition
  | '?' => .optional
  | '+' => .oneOrMore
  | _ => .zeroOrMore

/-- An expression with the suffix behind it, if there is one. A second character makes it lazy. -/
def withSuffix (e : Expr) (suffix : Option String) : Expr :=
  match suffix.map String.toList with
  | some (sign :: more) => .repeated e (repetitionOf sign) more.isEmpty
  | _ => e

/-- The text inside brackets. -/
def inside (text : String) : String := String.ofList (text.toList.drop 1).dropLast

/-- Options are read and dropped. -/
def elementOptions : Reader Unit := do
  let _ ← optional (token Scan.options)

def range : Reader Expr := do
  let first ← token Scan.literal
  let _ ← word ".."
  let last ← token Scan.literal
  return .range (.literal first) (.literal last)

def literal : Reader Expr := do
  let text ← token Scan.literal
  elementOptions
  return .literal text

def tokenReference : Reader Expr := do
  let name ← token Scan.upperName
  elementOptions
  return .reference name

def charset : Reader Expr := do
  let text ← token Scan.charset
  return .charset (inside text)

def wildcard : Reader Expr := do
  let _ ← token Scan.wildcard
  elementOptions
  return .wildcard

/-- Whether the brackets ahead are the argument of the reference before them. -/
def argumentAhead (first : Bool) : Reader Bool := do
  if !(← ahead (token Scan.argument)) then return false
  else if first then return true
  else if !(← ahead (token Scan.charset)) then return true
  else
    ahead (do
      let _ ← token Scan.argument
      (token Scan.options).or (token Scan.suffix))

def ruleReference (first : Bool) : Reader Expr := do
  let name ← token Scan.lowerName
  if ← argumentAhead first then
    let _ ← token Scan.argument
  elementOptions
  return .reference name

/-- One member of a negated set. -/
def setMember : Reader Expr := firstOf [range, literal, tokenReference, charset]

def negated : Reader Expr := do
  let _ ← word "~"
  let operand ← setMember.or do
    let _ ← word "("
    let members ← separated "|" setMember
    let _ ← word ")"
    return .tokenSet members
  return .negated operand

/-- An element without suffix. `first` says that it opens its alternative. -/
def atom (first : Bool) : Reader Expr :=
  firstOf [range, literal, tokenReference, ruleReference first, negated, wildcard, charset]

def suffix : Reader (Option String) := optional (token Scan.suffix)

/-- An element of an alternative. `block` reads a group in parentheses. -/
def element (block : Reader Expr) (first : Bool) : Reader Expr :=
  firstOf [
    do
      let _ ← identifier
      let _ ← token Scan.labelSign
      let e ← (atom first).or block
      return withSuffix e (← suffix),
    do
      let e ← atom first
      return withSuffix e (← suffix),
    do
      let e ← block
      return withSuffix e (← suffix),
    do
      let code ← token Scan.code
      let _ ← word "?"
      return .predicate code,
    do
      let code ← token Scan.code
      return .action code]

/-! ## 3. Alternatives -/

/-- A lexer command, with its argument if it has one. -/
def lexerCommand : Reader String := do
  let name ← identifier
  let argument ← optional do
    let _ ← word "("
    let a ← identifier.or (token Scan.digits)
    let _ ← word ")"
    return a
  return match argument with
    | some a => name ++ "(" ++ a ++ ")"
    | none => name

/-- Lexer commands, as one action. -/
def lexerCommands : Reader Expr := do
  let _ ← word "->"
  let commands ← separated "," lexerCommand
  return .action ("-> " ++ String.intercalate ", " commands)

/-- The elements of an alternative. -/
def elements (block : Reader Expr) : Reader (List Expr) := do
  match ← optional (element block true) with
  | none => return []
  | some e =>
    let more ← many (element block false)
    return e :: more

def alternative (block : Reader Expr) : Reader Expr := do
  elementOptions
  let es ← elements block
  let commands ← optional lexerCommands
  let _ ← optional (do let _ ← word "#"; identifier)
  return .sequence (es ++ commands.toList)

def alternatives (block : Reader Expr) : Reader Expr := do
  return .choice (← separated "|" (alternative block))

/-- Options of a grammar, a rule or a group. -/
def optionsSpec : Reader Unit := do
  let _ ← word "options"
  let _ ← token Scan.code

/-- A group in parentheses; groups may be nested `depth` deep. -/
def block : Nat → Reader Expr
  | 0 => fail
  | depth + 1 => do
    let _ ← word "("
    let _ ← optional (do optionsSpec; word ":")
    let e ← alternatives (block depth)
    let _ ← word ")"
    return e

/-! ## 4. Declarations -/

/-- A named action. -/
def namedAction : Reader Unit := do
  let _ ← word "@"
  let _ ← identifier
  let _ ← optional (do let _ ← word "::"; identifier)
  let _ ← token Scan.code

/-- What may stand between the name of a rule and its colon. -/
def ruleHeader : Reader Unit :=
  firstOf [
    do let _ ← token Scan.argument,
    do let _ ← word "returns"; let _ ← token Scan.argument,
    do let _ ← word "locals"; let _ ← token Scan.argument,
    do let _ ← word "throws"; let _ ← separated "," identifier,
    optionsSpec,
    namedAction]

/-- An exception handler behind a rule. -/
def exceptionHandler : Reader Unit :=
  firstOf [
    do let _ ← word "catch"; let _ ← token Scan.argument; let _ ← token Scan.code,
    do let _ ← word "finally"; let _ ← token Scan.code]

/-- A declaration as it stands in the text, with the place of its name. -/
structure Declaration where
  name : String
  position : Nat
  fragment : Bool
  body : Expr
  deriving Repr, Inhabited

/-- The name of a declaration up to its colon, with its place. -/
def declarationHead : Reader (String × Nat) := do
  let position ← place
  let name ← identifier
  let _ ← many ruleHeader
  let _ ← word ":"
  return (name, position)

/-- A rule declaration; `depth` bounds the nesting of groups. -/
def declaration (depth : Nat) : Reader Declaration := do
  let (fragment, name, position) ←
    Reader.or
      (do let _ ← word "fragment"; return (true, ← declarationHead))
      (do return (false, ← declarationHead))
  let body ← alternatives (block depth)
  let _ ← word ";"
  let _ ← many exceptionHandler
  return { name, position, fragment, body }

/-! ## 5. Files -/

/-- What a grammar file declares itself to be. -/
inductive GrammarKind where
  | lexer
  | parser
  deriving DecidableEq, Repr, Inhabited

/-- The keyword of a kind. -/
def GrammarKind.keyword : GrammarKind → String
  | .lexer => "lexer"
  | .parser => "parser"

/-- A grammar declaration: the kind, if it is not combined, and the name. -/
def grammarDeclaration : Reader (Option GrammarKind × String) := do
  let kind ← optional (firstOf [
    do let _ ← word "lexer"; return GrammarKind.lexer,
    do let _ ← word "parser"; return GrammarKind.parser])
  let _ ← word "grammar"
  let name ← identifier
  let _ ← word ";"
  return (kind, name)

/-- What may stand between the grammar declaration and the rules. -/
def prequel : Reader Unit :=
  firstOf [
    optionsSpec,
    do let _ ← word "tokens"; let _ ← token Scan.code,
    do let _ ← word "channels"; let _ ← token Scan.code,
    do
      let _ ← word "import"
      let _ ← separated "," (do
        let _ ← identifier
        let _ ← optional (do let _ ← word "="; identifier))
      let _ ← word ";",
    namedAction]

/-- A mode declaration. -/
def modeSpec : Reader Unit := do
  let _ ← word "mode"
  let _ ← identifier
  let _ ← word ";"

/-- A grammar file as it stands in the text. -/
structure FileContent where
  header : Option (Option GrammarKind × String)
  declarations : List Declaration
  deriving Repr, Inhabited

/-- A whole file; `depth` bounds the nesting of groups. -/
def file (depth : Nat) : Reader FileContent := do
  let header ← optional grammarDeclaration
  let _ ← many prequel
  let parts ← many <| Reader.or
    (do return some (← declaration depth))
    (do modeSpec; return none)
  ending
  return { header, declarations := parts.filterMap id }

end GrammarManual.G4
