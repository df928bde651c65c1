import GrammarManual.Proofs.Reading

/-!
# Proofs/Notation: rule bodies as they are written

A rule body can be written in many ways that say the same: with labels, options, arguments and
names of alternatives, none of which has a place in a manual. A `Body` is a body as it is written:

* `tokens` -- the tokens that spell it;
* `expr` -- the expression that it says;
* `Body.Clear` -- no brackets in it are taken for something else: an argument is told from a
  character set, and a set behind a reference from an argument.
-/

namespace GrammarManual.G4

/-! ## 1. Names, options, suffixes -/

/-- A name whose first character is of a kind. -/
structure Name (kind : Char → Bool) where
  first : Char
  more : List Char
  isKind : kind first = true

/-- The name of a token. -/
abbrev TokenName := Name Char.isUpper

/-- The name of a parser rule. -/
abbrev RuleName := Name Char.isLower

/-- Any name. -/
abbrev AnyName := Name Char.isAlpha

namespace Name

variable {kind : Char → Bool}

def lexeme (n : Name kind) : Lexeme := .name n.first n.more

def string (n : Name kind) : String := String.ofList (n.first :: n.more)

end Name

/-- Options of an element, if there are some. -/
def optionTokens (options : Option (List Char)) : List Lexeme :=
  options.elim [] fun inner => [.options inner]

/-- How often an element may occur, and whether as often as it can. -/
structure Suffix where
  times : Repetition
  greedy : Bool

def suffixTokens (suffix : Option Suffix) : List Lexeme :=
  suffix.elim [] fun s => [.suffix s.times s.greedy]

/-- An operand with its suffix. -/
def suffixed (suffix : Option Suffix) (e : Expr) : Expr :=
  suffix.elim e fun s => .repeated e s.times s.greedy

/-- A label in front of an operand; it collects what it stands for or not. -/
structure Label where
  name : AnyName
  collects : Bool

def labelTokens (label : Option Label) : List Lexeme :=
  label.elim [] fun l => [l.name.lexeme, .sign (if l.collects then "+=" else "=")]

/-- Whether a token can follow an element: it begins the next one or ends the alternative. -/
def Lexeme.follows : Lexeme → Bool
  | .name _ _ | .literal _ | .brackets _ | .code _ | .wildcard => true
  | .sign text => [";", "|", "(", ")", "~", "->", "#"].contains text
  | _ => false

/-- These tokens are none of the element before them. -/
def Behind (us : List Lexeme) : Prop := ∀ t ∈ us.head?, t.follows = true

theorem behind_nil : Behind [] := by
  intro t ht
  cases ht

/-! ## 2. Atoms -/

/-- What can stand in a set. -/
inductive Member where
  | range (first last : List Char)
  | literal (inner : List Char) (options : Option (List Char))
  | token (name : TokenName) (options : Option (List Char))
  | charset (inner : List Char) (inline : Enclosed ']' Scan.isInline inner)

namespace Member

def tokens : Member → List Lexeme
  | range first last => [.literal first, .sign "..", .literal last]
  | literal inner options => .literal inner :: optionTokens options
  | token name options => name.lexeme :: optionTokens options
  | charset inner _ => [.brackets inner]

def expr : Member → Expr
  | range first last =>
    .range (.literal (String.ofList (Lexeme.literal first).text))
      (.literal (String.ofList (Lexeme.literal last).text))
  | literal inner _ => .literal (String.ofList (Lexeme.literal inner).text)
  | token name _ => .reference name.string
  | charset inner _ => .charset (String.ofList inner)

end Member

/-- Further members of a set. -/
def memberTokens (members : List Member) : List Lexeme :=
  members.flatMap fun m => .sign "|" :: m.tokens

/-- What can stand before a suffix, but for groups. -/
inductive Atom where
  | member (m : Member)
  | rule (name : RuleName) (argument options : Option (List Char))
  | wildcard (options : Option (List Char))
  | negated (m : Member)
  | negatedSet (first : Member) (more : List Member)

namespace Atom

def tokens : Atom → List Lexeme
  | member m => m.tokens
  | rule name argument options =>
    name.lexeme :: (argument.elim [] (fun inner => [.brackets inner]) ++ optionTokens options)
  | wildcard options => .wildcard :: optionTokens options
  | negated m => .sign "~" :: m.tokens
  | negatedSet first more =>
    .sign "~" :: .sign "(" :: (first.tokens ++ (memberTokens more ++ [.sign ")"]))

def expr : Atom → Expr
  | member m => m.expr
  | rule name _ _ => .reference name.string
  | wildcard _ => .wildcard
  | negated m => .negated m.expr
  | negatedSet first more => .negated (.tokenSet (first.expr :: more.map Member.expr))

/-- Brackets behind a reference are its argument if the reference opens its alternative, if they
    break a line, or if options or a suffix follow. Brackets behind a reference with none of these
    are a set of their own. -/
def Clear (first : Bool) (suffix : Option Suffix) (after : List Lexeme) : Atom → Prop
  | rule _ (some inner) options =>
    first = true ∨ ¬ Enclosed ']' Scan.isInline inner ∨ options ≠ none ∨ suffix ≠ none
  | rule _ none options =>
    options ≠ none ∨ suffix ≠ none ∨ ∀ inner, after.head? = some (.brackets inner) →
      first = false ∧ Enclosed ']' Scan.isInline inner ∧ Behind after.tail
  | _ => True

end Atom

/-! ## 3. Commands and names of alternatives -/

/-- The argument of a lexer command. -/
inductive CommandArgument where
  | name (n : AnyName)
  | digits (text : List Char)

namespace CommandArgument

def lexeme : CommandArgument → Lexeme
  | name n => n.lexeme
  | digits text => .digits text

def string (a : CommandArgument) : String := String.ofList a.lexeme.text

end CommandArgument

/-- A lexer command. -/
structure Command where
  name : AnyName
  argument : Option CommandArgument

namespace Command

def tokens (c : Command) : List Lexeme :=
  c.name.lexeme :: c.argument.elim [] fun a => [.sign "(", a.lexeme, .sign ")"]

def string (c : Command) : String :=
  match c.argument with
  | some a => c.name.string ++ "(" ++ a.string ++ ")"
  | none => c.name.string

end Command

/-- What ends an alternative: lexer commands and a name. -/
structure Ending where
  commands : Option (Command × List Command)
  label : Option AnyName

namespace Ending

def commandTokens (e : Ending) : List Lexeme :=
  e.commands.elim [] fun (first, more) =>
    .sign "->" :: (first.tokens ++ more.flatMap fun c => .sign "," :: c.tokens)

def nameTokens (e : Ending) : List Lexeme := e.label.elim [] fun n => [.sign "#", n.lexeme]

/-- The commands are one action. -/
def exprs (e : Ending) : List Expr :=
  e.commands.elim [] fun (first, more) =>
    [.action ("-> " ++ String.intercalate ", " (first.string :: more.map Command.string))]

end Ending

/-! ## 4. Bodies -/

mutual

/-- An element of an alternative. -/
inductive Item where
  | atom (label : Option Label) (a : Atom) (suffix : Option Suffix)
  | group (label : Option Label) (body : Body) (suffix : Option Suffix)
  | predicate (inner : List Char)
  | action (inner : List Char)

/-- The elements of an alternative. -/
inductive Items where
  | nil
  | cons (item : Item) (more : Items)

/-- Alternatives, at least one. -/
inductive Body where
  | last (options : Option (List Char)) (items : Items) (ending : Ending)
  | more (options : Option (List Char)) (items : Items) (ending : Ending) (rest : Body)

end

mutual

def Item.tokens : Item → List Lexeme
  | .atom label a suffix => labelTokens label ++ (a.tokens ++ suffixTokens suffix)
  | .group label body suffix =>
    labelTokens label ++ (.sign "(" :: (body.tokens ++ .sign ")" :: suffixTokens suffix))
  | .predicate inner => [.code inner, .sign "?"]
  | .action inner => [.code inner]

def Items.tokens : Items → List Lexeme
  | .nil => []
  | .cons item more => item.tokens ++ more.tokens

/-- The tokens of alternatives, with bars between them. -/
def Body.tokens : Body → List Lexeme
  | .last options items ending =>
    optionTokens options ++ (items.tokens ++ (ending.commandTokens ++ ending.nameTokens))
  | .more options items ending rest =>
    optionTokens options ++ (items.tokens ++ (ending.commandTokens ++ ending.nameTokens)) ++
      .sign "|" :: rest.tokens

end

mutual

def Item.expr : Item → Expr
  | .atom _ a suffix => suffixed suffix a.expr
  | .group _ body suffix => suffixed suffix (.choice body.exprs)
  | .predicate inner => .predicate (String.ofList (Lexeme.code inner).text)
  | .action inner => .action (String.ofList (Lexeme.code inner).text)

def Items.exprs : Items → List Expr
  | .nil => []
  | .cons item more => item.expr :: more.exprs

/-- The alternatives of a body. -/
def Body.exprs : Body → List Expr
  | .last _ items ending => [.sequence (items.exprs ++ ending.exprs)]
  | .more _ items ending rest => .sequence (items.exprs ++ ending.exprs) :: rest.exprs

end

/-- What a body says. -/
def Body.expr (b : Body) : Expr := .choice b.exprs

mutual

/-- An element is clear before some tokens; `first` says that it opens its alternative. -/
def Item.Clear : Item → Bool → List Lexeme → Prop
  | .atom _ a suffix, first, after => a.Clear first suffix after
  | .group _ body _, _, _ => body.Clear
  | .predicate _, _, _ | .action _, _, _ => True

def Items.Clear : Items → Bool → Prop
  | .nil, _ => True
  | .cons item more, first => item.Clear first more.tokens ∧ more.Clear false

def Body.Clear : Body → Prop
  | .last _ items _ => items.Clear true
  | .more _ items _ rest => items.Clear true ∧ rest.Clear

end

end GrammarManual.G4
