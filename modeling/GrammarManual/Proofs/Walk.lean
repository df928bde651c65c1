import GrammarManual.Markup.Body
import Mathlib.Data.List.TakeWhile

/-!
# Proofs/Walk: what a walk over a body leaves behind

A walk is a computation with a state. This file says what it computes, without the state:

* `runFrom` -- result and state of a computation, and what they are after two steps;
* `Expr.leaves` -- the leaves of an expression from left to right. A walk goes through them up to
  the first that is no expression (`Expr.isPlain`: there is none);
* `Expr.layout`, `View.heard` -- the layout a walk yields and the symbols it records;
* `View.meetAll`, **`walk_outcome`** -- a walk goes through the leaves one after the other, and
  yields the layout if none of them stops it;
* **`walk_run`** -- inside a rule it records those symbols, and stops at the first leaf that is no
  expression.
-/

namespace GrammarManual

/-! ## 1. Runs -/

section Run

variable {ε σ α β : Type}

/-- The result of a computation begun in a state, and the state it leaves. -/
def runFrom (w : ExceptT ε (StateM σ) α) (s : σ) : Except ε α × σ := w.run.run s

theorem runFrom_bind (w : ExceptT ε (StateM σ) α) (f : α → ExceptT ε (StateM σ) β) (s : σ) :
    runFrom (w >>= f) s =
      match runFrom w s with
      | (.ok a, s') => runFrom (f a) s'
      | (.error e, s') => (.error e, s') := by
  show (ExceptT.bindCont f (w s).1) (w s).2 =
    match w s with
    | (.ok a, s') => runFrom (f a) s'
    | (.error e, s') => (.error e, s')
  rcases w s with ⟨r, s'⟩
  cases r <;> rfl

theorem runFrom_bind_ok {w : ExceptT ε (StateM σ) α} {f : α → ExceptT ε (StateM σ) β} {s s' : σ}
    {a : α} (h : runFrom w s = (.ok a, s')) : runFrom (w >>= f) s = runFrom (f a) s' := by
  rw [runFrom_bind, h]

theorem runFrom_bind_error {w : ExceptT ε (StateM σ) α} {f : α → ExceptT ε (StateM σ) β}
    {s s' : σ} {e : ε} (h : runFrom w s = (.error e, s')) :
    runFrom (w >>= f) s = (.error e, s') := by
  rw [runFrom_bind, h]

/-- Two steps succeed only if each does. -/
theorem runFrom_bind_eq_ok {w : ExceptT ε (StateM σ) α} {f : α → ExceptT ε (StateM σ) β}
    {s t : σ} {b : β} (h : runFrom (w >>= f) s = (.ok b, t)) :
    ∃ a s', runFrom w s = (.ok a, s') ∧ runFrom (f a) s' = (.ok b, t) := by
  rw [runFrom_bind] at h
  split at h
  · rename_i a s' hw
    exact ⟨a, s', hw, h⟩
  · cases h

end Run

/-! ## 2. Leaves -/

namespace Expr

mutual

/-- The leaves of an expression, from left to right. -/
def leaves : Expr → List Expr
  | .sequence items => leavesAll items
  | .choice alternatives => leavesAll alternatives
  | .tokenSet members => leavesAll members
  | .repeated operand _ _ => leaves operand
  | .negated operand => leaves operand
  | .range first last => leaves first ++ leaves last
  | .reference name => [.reference name]
  | .literal text => [.literal text]
  | .charset text => [.charset text]
  | .wildcard => [.wildcard]
  | .predicate code => [.predicate code]
  | .action code => [.action code]
  | .foreign => [.foreign]

/-- The leaves of several expressions. -/
def leavesAll : List Expr → List Expr
  | [] => []
  | e :: es => leaves e ++ leavesAll es

end

/-- Whether a value is an expression at all. -/
def isKnown : Expr → Bool
  | .foreign => false
  | _ => true

/-- Whether an expression holds nothing but expressions. -/
def isPlain (e : Expr) : Bool := e.leaves.all isKnown

theorem leavesAll_eq_flatMap (es : List Expr) : leavesAll es = es.flatMap leaves := by
  induction es with
  | nil => rfl
  | cons e es ih => rw [leavesAll, ih, List.flatMap_cons]

end Expr

/-! ## 3. Layouts -/

/-- The token that a literal is shown as, if there is one. -/
def LiteralIndex.shown? (index : LiteralIndex) (mode : Mode) (text : String) : Option String :=
  if mode = .parser then index.token? text else none

theorem LiteralIndex.shown?_eq_some {index : LiteralIndex} {mode : Mode} {text token : String} :
    index.shown? mode text = some token ↔ mode = .parser ∧ index.token? text = some token := by
  cases mode <;> simp [shown?]

/-- A literal is shown and recorded as the token that stands for it, else as its text. -/
theorem View.literal_eq (v : View) (mode : Mode) (text : String) :
    v.literal mode text =
      match v.literals.shown? mode text with
      | some token => (.identifier token, token)
      | none => (.string text, text) := by
  unfold View.literal LiteralIndex.shown?
  cases mode with
  | lexer => rfl
  | parser => cases h : v.literals.token? text <;> rfl

namespace Expr

mutual

/-- The layout of an expression that stands `depth` groups deep. -/
def layout (v : View) (mode : Mode) : Nat → Expr → Layout
  | depth, .sequence items => .sequence (layoutAll v mode depth items) v.limit
  | depth, .choice alternatives =>
    .choice (layoutAll v mode (depth + 1) alternatives) (needsBrackets depth alternatives)
  | depth, .tokenSet members =>
    .choice (layoutAll v mode (depth + 1) members) (needsBrackets depth members)
  | depth, .repeated operand times greedy => (layout v mode depth operand).repeated times greedy
  | depth, .negated operand => (layout v mode depth operand).negated
  | depth, .range first last => Layout.range (layout v mode depth first) (layout v mode depth last)
  | _, .reference name => .identifier name
  | _, .literal text => (v.literal mode text).1
  | _, .charset text => .charset text
  | _, .wildcard => .wildcard
  | _, .predicate _ => .nothing
  | _, .action _ => .nothing
  | _, .foreign => .nothing

/-- The layouts of several expressions. -/
def layoutAll (v : View) (mode : Mode) : Nat → List Expr → List Layout
  | _, [] => []
  | depth, e :: es => layout v mode depth e :: layoutAll v mode depth es

end

theorem layoutAll_eq_map (v : View) (mode : Mode) (depth : Nat) (es : List Expr) :
    layoutAll v mode depth es = es.map (layout v mode depth) := by
  induction es with
  | nil => rfl
  | cons e es ih => rw [layoutAll, ih, List.map_cons]

end Expr

/-! ## 4. Symbols -/

/-- The symbol that a leaf refers to, if it refers to one. -/
def View.symbol? (v : View) (mode : Mode) : Expr → Option String
  | .reference name => some name
  | .literal text => some (v.literal mode text).2
  | _ => none

/-- The symbols of leaves, up to the first leaf that is no expression. -/
def View.symbols (v : View) (mode : Mode) (leaves : List Expr) : List String :=
  (leaves.takeWhile Expr.isKnown).filterMap (v.symbol? mode)

/-- The symbols that a walk over an expression records, from left to right. -/
def View.heard (v : View) (mode : Mode) (e : Expr) : List String := v.symbols mode e.leaves

namespace UsageMap

/-- Notes that `referrer` refers to some symbols. -/
def recordAll {H : Type} (m : UsageMap H) (referrer : String) (symbols : List String) :
    UsageMap H :=
  symbols.foldl (fun m symbol => m.record symbol referrer) m

end UsageMap

/-- The symbols of a leaf and of those behind it. -/
theorem View.symbols_cons (v : View) (mode : Mode) (leaf : Expr) (leaves : List Expr) :
    v.symbols mode (leaf :: leaves) =
      if leaf.isKnown then (v.symbol? mode leaf).toList ++ v.symbols mode leaves else [] := by
  unfold View.symbols
  rw [List.takeWhile_cons]
  cases leaf.isKnown with
  | true =>
    rw [if_pos rfl, if_pos rfl, List.filterMap_cons]
    cases v.symbol? mode leaf <;> rfl
  | false => rfl

/-! ## 5. Leaf after leaf -/

variable {H : Type}

/-- What a walk does at a leaf: it records the symbol of the leaf, or it stops there. -/
def View.meet (v : View) (rule? : Option String) (mode : Mode) (m : UsageMap H) (leaf : Expr) :
    Option WalkError × UsageMap H :=
  if leaf.isKnown then
    match v.symbol? mode leaf, rule? with
    | none, _ => (none, m)
    | some symbol, some name => (none, m.record symbol name)
    | some _, none => (some .outsideRule, m)
  else (some .foreign, m)

/-- What a walk does at leaves from left to right, up to the first at which it stops. -/
def View.meetAll (v : View) (rule? : Option String) (mode : Mode) :
    UsageMap H → List Expr → Option WalkError × UsageMap H
  | m, [] => (none, m)
  | m, leaf :: leaves =>
    match v.meet rule? mode m leaf with
    | (none, m') => meetAll v rule? mode m' leaves
    | (some e, m') => (some e, m')

theorem View.meetAll_append (v : View) (rule? : Option String) (mode : Mode) (m : UsageMap H)
    (xs ys : List Expr) :
    v.meetAll rule? mode m (xs ++ ys) =
      match v.meetAll rule? mode m xs with
      | (none, m') => v.meetAll rule? mode m' ys
      | (some e, m') => (some e, m') := by
  induction xs generalizing m with
  | nil => rfl
  | cons x xs ih =>
    rw [List.cons_append, View.meetAll, View.meetAll]
    rcases v.meet rule? mode m x with ⟨_ | e, m'⟩
    · exact ih m'
    · rfl

/-- Inside a rule only a value that is no expression stops a walk. -/
theorem View.meetAll_inside (v : View) (name : String) (mode : Mode) (m : UsageMap H)
    (leaves : List Expr) :
    v.meetAll (some name) mode m leaves =
      (if leaves.all Expr.isKnown then none else some .foreign,
        m.recordAll name (v.symbols mode leaves)) := by
  induction leaves generalizing m with
  | nil => rfl
  | cons leaf leaves ih =>
    rw [View.meetAll, View.symbols_cons, List.all_cons]
    unfold View.meet
    cases leaf.isKnown with
    | false => rfl
    | true =>
      cases v.symbol? mode leaf with
      | none => exact ih m
      | some symbol => exact ih (m.record symbol name)

/-! ## 6. Walks -/

/-- What a walk comes to that meets some leaves and yields a value. -/
def View.outcome {α : Type} (v : View) (p : Place) (m : UsageMap H) (leaves : List Expr) (a : α) :
    Except WalkError α × UsageMap H :=
  match v.meetAll p.rule? p.mode m leaves with
  | (none, m') => (.ok a, m')
  | (some e, m') => (.error e, m')

/-- A walk followed by a step that meets nothing. -/
theorem runFrom_bind_outcome {α β : Type} {v : View} {p : Place} {m : UsageMap H}
    {leaves : List Expr} {a : α} {b : β} {w : Walk H α} {f : α → Walk H β}
    (hw : runFrom w m = v.outcome p m leaves a)
    (hf : ∀ m' : UsageMap H, runFrom (f a) m' = (.ok b, m')) :
    runFrom (w >>= f) m = v.outcome p m leaves b := by
  unfold View.outcome at hw ⊢
  rcases hmet : v.meetAll p.rule? p.mode m leaves with ⟨_ | e, m'⟩
  · rw [hmet] at hw
    exact (runFrom_bind_ok hw).trans (hf m')
  · rw [hmet] at hw
    exact runFrom_bind_error hw

/-- Two walks one after the other, and a step that meets nothing. -/
theorem runFrom_bind_outcome₂ {α β γ : Type} {v : View} {p : Place} {m : UsageMap H}
    {xs ys : List Expr} {a : α} {b : β} {c : γ} {w : Walk H α} {w' : Walk H β}
    {f : α → β → Walk H γ} (hw : runFrom w m = v.outcome p m xs a)
    (hw' : ∀ m' : UsageMap H, runFrom w' m' = v.outcome p m' ys b)
    (hf : ∀ m' : UsageMap H, runFrom (f a b) m' = (.ok c, m')) :
    runFrom (w >>= fun a => w' >>= f a) m = v.outcome p m (xs ++ ys) c := by
  unfold View.outcome at hw
  rw [View.outcome, View.meetAll_append]
  rcases hmet : v.meetAll p.rule? p.mode m xs with ⟨_ | e, m'⟩
  · rw [hmet] at hw
    rw [runFrom_bind_ok hw]
    exact runFrom_bind_outcome (hw' m') hf
  · rw [hmet] at hw
    exact runFrom_bind_error hw

theorem refer_outcome (v : View) (p : Place) (m : UsageMap H) {leaf : Expr} {symbol : String}
    (hknown : leaf.isKnown = true) (hleaf : v.symbol? p.mode leaf = some symbol) (l : Layout) :
    runFrom (do p.refer symbol; return l : Walk H Layout) m = v.outcome p m [leaf] l := by
  unfold View.outcome View.meetAll View.meet Place.refer Place.referrer
  rw [if_pos hknown, hleaf]
  cases p.rule? <;> rfl

mutual

/-- **A walk goes through the leaves** of an expression from left to right. If nothing stops it, it
    yields the layout of the expression. -/
theorem walk_outcome (v : View) : ∀ (e : Expr) (p : Place) (m : UsageMap H),
    runFrom (walk v p e) m = v.outcome p m e.leaves (e.layout v p.mode p.depth)
  | .sequence items, p, m => by
      rw [walk]
      exact runFrom_bind_outcome (walkAll_outcome v items p m) fun _ => rfl
  | .choice alternatives, p, m => by
      rw [walk]
      exact runFrom_bind_outcome (walkAll_outcome v alternatives p.nested m) fun _ => rfl
  | .tokenSet members, p, m => by
      rw [walk]
      exact runFrom_bind_outcome (walkAll_outcome v members p.nested m) fun _ => rfl
  | .repeated operand times greedy, p, m => by
      rw [walk]
      exact runFrom_bind_outcome (walk_outcome v operand p m) fun _ => rfl
  | .negated operand, p, m => by
      rw [walk]
      exact runFrom_bind_outcome (walk_outcome v operand p m) fun _ => rfl
  | .range first last, p, m => by
      rw [walk]
      exact runFrom_bind_outcome₂ (walk_outcome v first p m)
        (fun m' => walk_outcome v last p m') fun _ => rfl
  | .reference name, p, m => by
      rw [walk]
      exact refer_outcome v p m rfl rfl _
  | .literal text, p, m => by
      rw [walk]
      exact refer_outcome v p m rfl rfl _
  | .charset _, _, _ => rfl
  | .wildcard, _, _ => rfl
  | .predicate _, _, _ => rfl
  | .action _, _, _ => rfl
  | .foreign, _, _ => rfl

theorem walkAll_outcome (v : View) : ∀ (es : List Expr) (p : Place) (m : UsageMap H),
    runFrom (walkAll v p es) m =
      v.outcome p m (Expr.leavesAll es) (Expr.layoutAll v p.mode p.depth es)
  | [], _, _ => rfl
  | e :: es, p, m => by
      rw [walkAll]
      exact runFrom_bind_outcome₂ (walk_outcome v e p m)
        (fun m' => walkAll_outcome v es p m') fun _ => rfl

end

/-- What a walk over some leaves comes to: a value if all are known, and the symbols recorded. -/
def afterWalk {α : Type} (v : View) (p : Place) (name : String) (m : UsageMap H)
    (leaves : List Expr) (a : α) : Except WalkError α × UsageMap H :=
  (if leaves.all Expr.isKnown then .ok a else .error .foreign,
    m.recordAll name (v.symbols p.mode leaves))

/-- **A walk inside a rule**: it yields the layout of the expression and records what it hears. -/
theorem walk_run (v : View) {name : String} (e : Expr) (p : Place) (m : UsageMap H)
    (hp : p.rule? = some name) :
    runFrom (walk v p e) m = afterWalk v p name m e.leaves (e.layout v p.mode p.depth) := by
  rw [walk_outcome, View.outcome, hp, View.meetAll_inside, afterWalk]
  cases e.leaves.all Expr.isKnown <;> rfl

/-- The walk over the body of a rule. -/
theorem Rule.walkBody_run (r : Rule) (v : View) (mode : Mode) (m : UsageMap H) :
    runFrom (r.walkBody v mode) m =
      (if r.body.isPlain then .ok (r.body.layout v mode 0) else .error .foreign,
        m.recordAll r.name (v.heard mode r.body)) :=
  walk_run v r.body _ m rfl

end GrammarManual
