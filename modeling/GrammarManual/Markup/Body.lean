import GrammarManual.Grammar.Rule
import GrammarManual.Markup.Layout
import GrammarManual.Usage.Map

/-!
# Markup/Body: from expressions to layouts

A rule body is walked once, from left to right and children first. The walk yields its `Layout` and
records in a `UsageMap` every symbol the body refers to:

* `View` is what stays fixed during a run, `Place` where the walk currently is;
* a literal of a parser rule that some token matches exactly is shown as that token;
* `needsBrackets` decides which groups keep their brackets;
* `WalkError` says what stops a walk. What was recorded before it stays recorded.
-/

namespace GrammarManual

/-! ## 1. Where the walk is -/

/-- What a run fixes for all bodies. -/
structure View where
  literals : LiteralIndex := []
  /-- The greatest width of a line. -/
  limit : Int
  deriving Inhabited

/-- Where a walk is: in which rule, if any, and how deep inside groups. -/
structure Place where
  rule? : Option String
  mode : Mode
  depth : Nat := 0
  deriving Repr, Inhabited

/-- One group further in. -/
def Place.nested (p : Place) : Place := { p with depth := p.depth + 1 }

/-- What stops a walk. -/
inductive WalkError where
  /-- A reference or literal that no rule encloses. -/
  | outsideRule
  /-- A value that is no expression. -/
  | foreign
  deriving DecidableEq, Repr, Inhabited

/-- The wording of a walk error. -/
def WalkError.message : WalkError → String
  | .outsideRule => "Grammar reference visited outside of any rule"
  | .foreign => "Unknown grammar node: None"

/-! ## 2. Brackets -/

/-- Whether an expression carries an operator of its own, so that a suffix behind it would read as
    a second operator. -/
def Expr.isOperator : Expr → Bool
  | .repeated .. => true
  | .negated _ => true
  | .range .. => true
  | _ => false

/-- Whether a group keeps its brackets. The rule body itself has none; a group inside it has them
    unless it comes down to a single item without an operator. -/
def needsBrackets (depth : Nat) (alternatives : List Expr) : Bool :=
  if depth = 0 then false
  else
    match alternatives with
    | [] => false
    | [.sequence []] => false
    | [.sequence [item]] => item.isOperator
    | [.sequence _] => true
    | [only] => only.isOperator
    | _ => true

/-! ## 3. The walk -/

/-- A computation that records usages and may stop. -/
abbrev Walk (H : Type) := ExceptT WalkError (StateM (UsageMap H))

variable {H : Type}

/-- The rule that the walk is in. -/
def Place.referrer (p : Place) : Walk H String :=
  match p.rule? with
  | some name => pure name
  | none => throw .outsideRule

/-- What a literal is shown as and recorded under. -/
def View.literal (v : View) (mode : Mode) (text : String) : Layout × String :=
  match mode, v.literals.token? text with
  | .parser, some token => (.identifier token, token)
  | _, _ => (.string text, text)

/-- Records that the rule of the place refers to a symbol. -/
def Place.refer (p : Place) (symbol : String) : Walk H Unit := do
  let referrer ← p.referrer
  modify fun m => m.record symbol referrer

mutual

/-- Walks an expression: its layout, with its references recorded. -/
def walk (v : View) (p : Place) : Expr → Walk H Layout
  | .sequence items => do return .sequence (← walkAll v p items) v.limit
  | .choice alternatives => do
    return .choice (← walkAll v p.nested alternatives) (needsBrackets p.depth alternatives)
  | .tokenSet members => do
    return .choice (← walkAll v p.nested members) (needsBrackets p.depth members)
  | .repeated operand times greedy => do return (← walk v p operand).repeated times greedy
  | .negated operand => do return (← walk v p operand).negated
  | .range first last => do
    let l ← walk v p first
    let r ← walk v p last
    return Layout.range l r
  | .reference name => do
    p.refer name
    return .identifier name
  | .literal text => do
    let (shown, symbol) := v.literal p.mode text
    p.refer symbol
    return shown
  | .charset text => return .charset text
  | .wildcard => return .wildcard
  | .predicate _ => return .nothing
  | .action _ => return .nothing
  | .foreign => throw .foreign

/-- Walks expressions from left to right. -/
def walkAll (v : View) (p : Place) : List Expr → Walk H (List Layout)
  | [] => return []
  | e :: es => do
    let l ← walk v p e
    let ls ← walkAll v p es
    return l :: ls

end

/-- Walks the body of a rule. -/
def Rule.walkBody (r : Rule) (v : View) (mode : Mode) : Walk H Layout :=
  walk v { rule? := some r.name, mode } r.body

end GrammarManual
