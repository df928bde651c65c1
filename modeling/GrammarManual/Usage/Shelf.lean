import GrammarManual.Usage.Map

/-!
# Usage/Shelf: a usage map whose sets are changed where they stand

A `UsageMap` is a value. A `Shelf` holds the same map as it is worked with: every set has a place,
is changed there, and stays with the symbol for which it was put up. Whoever asks for referrers is
handed a set too and may do with it what he likes, so it had better not be the map's own.

* `UsageRequest`, `UsageAnswer` -- what can be asked of a map, and what it answers;
* `Shelf.serve`, `Shelf.after` -- one request, and a history of them;
* `Shelf.toMap` -- the map that a shelf holds.
-/

namespace GrammarManual

/-! ## 1. Requests -/

/-- What can be asked of a usage map, or done to a set that it has handed out. -/
inductive UsageRequest (H : Type) where
  | seed (symbols : List String)
  | record (symbol referrer : String)
  | bind (symbol : String) (handle : H)
  | referrers (symbol : String)
  | isUsed (symbol : String)
  | flush
  /-- Changes one of the sets handed out so far, counted from 0. -/
  | edit (number : Nat) (change : List String → List String)

/-- The symbols that a request mentions. -/
def UsageRequest.mentions {H : Type} : UsageRequest H → List String
  | .seed symbols => symbols
  | .record symbol _ => [symbol]
  | .bind symbol _ => [symbol]
  | _ => []

/-- What a usage map answers. -/
inductive UsageAnswer (H : Type) where
  | done
  | names (ns : List String)
  | truth (b : Bool)
  /-- What was written, and at which handles; the number of writings. -/
  | written (blocks : List (H × List String)) (count : Nat)
  deriving DecidableEq, Repr, Inhabited

/-! ## 2. The shelf -/

/-- What stands for one symbol. -/
structure Slot (H : Type) where
  /-- Where the symbol is declared. -/
  handle : Option H := none
  /-- The place of its set. -/
  place : Nat
  deriving Repr, Inhabited

/-- A usage map at work. -/
structure Shelf (H : Type) where
  /-- All sets, those of the map and those handed out. -/
  sets : List (List String) := []
  /-- The slots of the symbols, in the order they were first mentioned. -/
  slots : List (String × Slot H) := []
  /-- The places of the sets handed out, in order. -/
  handed : List Nat := []
  deriving Repr, Inhabited

namespace Shelf

variable {H : Type}

/-- The set at a place. -/
def setAt (l : Shelf H) (place : Nat) : List String := l.sets.getD place []

/-- Changes the set at a place. -/
def change (l : Shelf H) (place : Nat) (f : List String → List String) : Shelf H :=
  { l with sets := l.sets.modify place f }

/-- Mentions a symbol. A new one gets a slot, with a set put up for it. -/
def mention (l : Shelf H) (symbol : String) : Shelf H :=
  if (l.slots.lookup symbol).isSome then l
  else
    { l with
      sets := l.sets ++ [[]]
      slots := l.slots ++ [(symbol, { place := l.sets.length })] }

/-- Notes that `referrer` refers to `symbol`. -/
def record (l : Shelf H) (symbol referrer : String) : Shelf H :=
  let l := l.mention symbol
  match l.slots.lookup symbol with
  | some slot =>
    if symbol = referrer then l else l.change slot.place (NameSet.insert referrer)
  | none => l

/-- Notes where `symbol` is declared, unless that is known. -/
def bind (l : Shelf H) (symbol : String) (handle : H) : Shelf H :=
  let l := l.mention symbol
  { l with
    slots := l.slots.map fun e =>
      if e.1 = symbol ∧ e.2.handle.isNone then (e.1, { e.2 with handle := some handle }) else e }

/-- The set of a symbol as it stands. -/
def referrers (l : Shelf H) (symbol : String) : List String :=
  (l.slots.lookup symbol).elim [] fun slot => l.setAt slot.place

/-- Hands out the referrers of a symbol: puts up another set that holds the same names. -/
def handOut (l : Shelf H) (symbol : String) : Shelf H :=
  { l with
    sets := l.sets ++ [l.referrers symbol]
    handed := l.handed ++ [l.sets.length] }

/-- Writes usages slot by slot and counts them on from `written`. -/
def flushFrom (l : Shelf H) (written : Nat) :
    List (String × Slot H) → List (H × List String) × Nat
  | [] => ([], written)
  | e :: rest =>
    match e.2.handle with
    | some h =>
      if (l.setAt e.2.place).isEmpty then flushFrom l written rest
      else
        let (blocks, count) := flushFrom l (written + 1) rest
        ((h, l.setAt e.2.place) :: blocks, count)
    | none => flushFrom l written rest

/-- Serves a request. -/
def serve (l : Shelf H) : UsageRequest H → Shelf H × UsageAnswer H
  | .seed symbols => (symbols.foldl mention l, .done)
  | .record symbol referrer => (l.record symbol referrer, .done)
  | .bind symbol handle => (l.bind symbol handle, .done)
  | .referrers symbol => (l.handOut symbol, .names (l.referrers symbol))
  | .isUsed symbol => (l, .truth !(l.referrers symbol).isEmpty)
  | .flush =>
    let (blocks, count) := l.flushFrom 0 l.slots
    (l, .written blocks count)
  | .edit number f =>
    match l.handed[number]? with
    | some place => (l.change place f, .done)
    | none => (l, .done)

/-- The shelf of a map that mentions some symbols, after some requests. -/
def after (symbols : List String) (history : List (UsageRequest H)) : Shelf H :=
  history.foldl (fun l request => (l.serve request).1) (symbols.foldl mention {})

/-- The map that a shelf holds. -/
def toMap (l : Shelf H) : UsageMap H :=
  ⟨l.slots.map fun e => (e.1, { handle := e.2.handle, referrers := l.setAt e.2.place })⟩

end Shelf

/-- What a request does to a map. Looking at it does nothing, and sets that were handed out are not
    its own. -/
def UsageMap.heed {H : Type} (m : UsageMap H) : UsageRequest H → UsageMap H
  | .seed symbols => m.seed symbols
  | .record symbol referrer => m.record symbol referrer
  | .bind symbol handle => m.bind symbol handle
  | _ => m

end GrammarManual
