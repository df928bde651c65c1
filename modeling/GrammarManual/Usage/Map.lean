import GrammarManual.Markup.Marker

/-!
# Usage/Map: who refers to what

A `UsageMap` holds, for every symbol mentioned so far and in the order of first mention, the handle
of its declaration and the rules that refer to it:

* `seed`, `record` and `bind` mention a symbol; `record` never counts a rule that refers to itself,
  and the first binding of a symbol wins;
* `referrers` and `isUsed` look at it;
* `flush` lists what is to be written at which handle.

Handles are abstract: the map only passes them on.
-/

namespace GrammarManual

/-! ## 1. Sorted sets of names -/

namespace NameSet

/-- Adds a name to a list sorted by code point without repetition. -/
def insert (name : String) : List String → List String
  | [] => [name]
  | n :: ns =>
    if name = n then n :: ns
    else if name < n then name :: n :: ns
    else n :: insert name ns

/-- A name belongs to the set after the insertion if it was inserted or belonged to it. -/
theorem mem_insert {a name : String} {ns : List String} :
    a ∈ insert name ns ↔ a = name ∨ a ∈ ns := by
  induction ns with
  | nil => simp [insert]
  | cons n ns ih =>
    simp only [insert]
    split
    · next h => subst h; simp
    · split
      · simp
      · simp only [List.mem_cons, ih]
        constructor
        · rintro (h | h | h)
          · exact .inr (.inl h)
          · exact .inl h
          · exact .inr (.inr h)
        · rintro (h | h | h)
          · exact .inr (.inl h)
          · exact .inl h
          · exact .inr (.inr h)

end NameSet

/-! ## 2. The map -/

/-- What is known of one symbol. -/
structure Usage (H : Type) where
  /-- Where the symbol is declared. -/
  handle : Option H := none
  /-- The rules that refer to it, sorted. -/
  referrers : List String := []
  deriving Repr, Inhabited

/-- What is known of all symbols, in the order they were first mentioned. -/
structure UsageMap (H : Type) where
  entries : List (String × Usage H) := []
  deriving Repr, Inhabited

namespace UsageMap

variable {H : Type}

/-- The map without symbols. -/
def empty : UsageMap H := {}

/-- What is known of a symbol. -/
def find? (m : UsageMap H) (symbol : String) : Option (Usage H) := m.entries.lookup symbol

/-- Changes the entry of a symbol; a symbol not mentioned before gets an entry at the end. -/
def update (symbol : String) (f : Usage H → Usage H) :
    List (String × Usage H) → List (String × Usage H)
  | [] => [(symbol, f {})]
  | (s, u) :: rest => if s = symbol then (s, f u) :: rest else (s, u) :: update symbol f rest

/-- Mentions symbols. -/
def seed (m : UsageMap H) (symbols : List String) : UsageMap H :=
  ⟨symbols.foldl (fun entries s => update s id entries) m.entries⟩

/-- The map that mentions the given symbols. -/
def ofSymbols (symbols : List String) : UsageMap H := empty.seed symbols

/-- Notes that `referrer` refers to `symbol`. -/
def record (m : UsageMap H) (symbol referrer : String) : UsageMap H :=
  ⟨update symbol (fun u =>
    if symbol = referrer then u else { u with referrers := NameSet.insert referrer u.referrers })
    m.entries⟩

/-- Notes where `symbol` is declared, unless that is known. -/
def bind (m : UsageMap H) (symbol : String) (handle : H) : UsageMap H :=
  ⟨update symbol (fun u =>
    if u.handle.isSome then u else { u with handle := some handle }) m.entries⟩

/-- The rules that refer to a symbol, sorted by code point. -/
def referrers (m : UsageMap H) (symbol : String) : List String :=
  (m.find? symbol).elim [] Usage.referrers

/-- Whether some other rule refers to a symbol. -/
def isUsed (m : UsageMap H) (symbol : String) : Bool := !(m.referrers symbol).isEmpty

/-- The usages to write: one list for every symbol that is declared and referred to. -/
def flush (m : UsageMap H) : List (H × List String) :=
  m.entries.filterMap fun (_, u) =>
    match u.handle with
    | some h => if u.referrers.isEmpty then none else some (h, u.referrers)
    | none => none

end UsageMap

end GrammarManual
