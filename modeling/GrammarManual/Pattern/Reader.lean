import GrammarManual.Pattern.Group

/-!
# Pattern/Reader: the written form of search patterns

`WrittenPattern.read` reads the notation of regular expressions:

* places `^ $ \A \Z \b \B`, the dot, classes, escapes;
* suffixes `* + ? {m,n}`, each also lazy (`*?`) or possessive (`*+`);
* alternatives, groups with and without names, atomic groups, groups that are taken up again;
* looks ahead and back, choices by a group, comments, and flags for a group or for the whole.

A text that is no pattern is refused with a `PatternError`: what is wrong and at which character,
counted from 0. Some faults are seen only when the whole has been read.
-/

namespace GrammarManual

namespace PatternReader

/-! ## 1. Suffixes -/

/-- The number of a repetition. -/
def readCount (digits : List Char) : Reader Nat := do
  if Text.mostDigits < digits.length then refuseAll (.longNumeral digits.length)
  let n := numeral 10 digits
  if 0xffffffff ≤ n then refuseAll .hugeRepeat
  return n

/-- Reads `{m,n}` behind its brace. A brace that opens no repetition stands for itself. -/
def readBounds : Reader (Option (Nat × Option Nat)) := do
  let s ← get
  if (← peek) = some (.plain '}') then return none
  let low ← takeWhile Char.isDigit
  let high ← if ← accept ',' then takeWhile Char.isDigit else pure low
  if !(← accept '}') then
    set s
    return none
  let least ← readCount low
  if high = [] then return some (least, none)
  let most ← readCount high
  if most < least then refuseAt .repeatBounds s.position
  return some (least, some most)

/-- Reads the sign behind a suffix that says what is tried first. -/
def readEagerness : Reader Eagerness := do
  if ← accept '?' then return .lazy
  if ← accept '+' then return .possessive
  return .greedy

/-- Applies a suffix to the last part; `start` is the place of the suffix. -/
def applySuffix (start least : Nat) (most : Option Nat) (items : List Item) :
    Reader (List Item) :=
  match items with
  | [] => refuseAt .nothingToRepeat start
  | .anchor _ :: _ => refuseAt .nothingToRepeat start
  | .repetition _ :: _ => refuseAt .repeatedTwice start
  | .ordinary r :: more => return .repetition (.loop r least most (← readEagerness)) :: more

/-! ## 2. Sequences -/

/-- Whether a character is passed over between the parts of a verbose pattern. -/
def isVerboseBlank (c : Char) : Bool := Lettering.isBlank { ascii := true } c

/-- Skips a comment of a verbose pattern up to the end of its line; `n` bounds the tokens. -/
def skipLine : Nat → Reader Unit
  | 0 => return
  | n + 1 => do
    match ← next with
    | none => return
    | some t => if t ≠ .plain '\n' then skipLine n

/-- Opens a group that takes what it matches, and gives its number. -/
def openGroup (name : Option String) : Reader Nat := do
  let s ← get
  if let some name := name then
    if let some earlier := s.names.lookup name then
      refuse (.redefined name s.groups earlier) (name.length + 1)
  let names := s.names ++ name.toList.map fun name => (name, s.groups)
  set { s with groups := s.groups + 1, names }
  return s.groups

/-- Steps behind the `)` of a group that began at `start`. -/
def closeGroup (start : Nat) : Reader Unit := do
  if !(← accept ')') then refuseAt .openGroup start

/-- Reads with other flags. -/
def withFlags {α : Type} (flags : List Flag) (read : Reader α) : Reader α := do
  let s ← get
  set { s with flags }
  let a ← read
  modify fun s' => { s' with flags := s.flags }
  return a

/-- Reads what a look back holds. -/
def lookingBack {α : Type} (read : Reader α) : Reader α := do
  let s ← get
  set { s with lookingBack := some (s.lookingBack.getD s.groups) }
  let a ← read
  modify fun s' => { s' with lookingBack := s.lookingBack }
  return a

/-- The place of a sign. -/
def anchorOf? (flags : List Flag) : Char → Option Anchor
  | '^' => some (if flags.contains .multiline then .lineStart else .start)
  | '$' => some (if flags.contains .multiline then .lineStop else .lastStop)
  | _ => none

/-- The bounds of a suffix of one sign. -/
def boundsOf? : Char → Option (Nat × Option Nat)
  | '*' => some (0, none)
  | '+' => some (1, none)
  | '?' => some (0, some 1)
  | _ => none

mutual

/-- Reads alternatives up to a `)` or the end; `n` bounds the nesting and the parts. -/
def readAlternatives : Nat → Bool → Reader Regex
  | 0, _ => return .empty
  | n + 1, atStart => do
    let r ← readSequence n atStart []
    if ← accept '|' then return .alt r (← readAlternatives n false) else return r

/-- Reads parts up to a `|`, a `)` or the end. -/
def readSequence : Nat → Bool → List Item → Reader Regex
  | 0, _, items => return sequenceOf items
  | n + 1, atStart, items => do
    match ← peek with
    | none | some (.plain '|') | some (.plain ')') => return sequenceOf items
    | some t =>
      let start := (← get).position
      let flags := (← get).flags
      discard next
      match t with
      | .dangling => refuse .danglingEscape
      | .escaped c => readSequence n atStart ((← readEscape c) :: items)
      | .plain c =>
        if flags.contains .verbose && isVerboseBlank c then readSequence n atStart items
        else if flags.contains .verbose && c = '#' then
          skipLine ((← get).ahead.length + 1)
          readSequence n atStart items
        else if let some p := anchorOf? flags c then readSequence n atStart (.anchor p :: items)
        else if let some (least, most) := boundsOf? c then
          readSequence n atStart (← applySuffix start least most items)
        else if c = '.' then
          readSequence n atStart (.ordinary (.any (flags.contains .dotAll)) :: items)
        else if c = '[' then readSequence n atStart ((← readClass) :: items)
        else if c = '{' then
          match ← readBounds with
          | none => readSequence n atStart ((← ofCodePoint c.toNat) :: items)
          | some (least, most) =>
            readSequence n atStart (← applySuffix start least most items)
        else if c = '(' then
          match ← readOpening start (atStart && items.isEmpty) with
          | .nothing => readSequence n atStart items
          | .reference item => readSequence n atStart (item :: items)
          | .capture name =>
            let index ← openGroup name
            let r ← readAlternatives n false
            closeGroup start
            modify fun s => { s with widths := (index, r.width) :: s.widths }
            readSequence n atStart (.ordinary (.group index r) :: items)
          | .plain on off =>
            let r ← withFlags (combine flags on off) (readAlternatives n false)
            closeGroup start
            readSequence n atStart (.ordinary r :: items)
          | .atomic =>
            let r ← readAlternatives n false
            closeGroup start
            readSequence n atStart (.ordinary (.atomic r) :: items)
          | .ahead negated =>
            let r ← readAlternatives n false
            closeGroup start
            readSequence n atStart (.ordinary (.ahead negated r) :: items)
          | .behind negated =>
            let r ← lookingBack (readAlternatives n false)
            closeGroup start
            readSequence n atStart (.ordinary (.behind negated r) :: items)
          | .choice index =>
            let first ← readSequence n false []
            let second ← if ← accept '|' then readSequence n false [] else pure .empty
            if (← peek) = some (.plain '|') then refuse .thirdBranch
            closeGroup start
            readSequence n atStart (.ordinary (.choice index first second) :: items)
        else readSequence n atStart ((← ofCodePoint c.toNat) :: items)

end

/-- Reads a whole pattern. -/
def readPattern : Reader WrittenPattern := do
  checkDangling
  let regex ← readAlternatives (2 * (← get).ahead.length + 2) true
  let s ← get
  if s.flags.contains .ascii && s.flags.contains .unicode then refuseAll .alphabets
  if !s.ahead.isEmpty then refuse .unbalanced
  if let some (index, position) := s.asked.find? fun asked => s.groups ≤ asked.1 then
    refuseAt (.badReference index) position
  if let some fault := regex.fault? (s.flags.contains .template) then refuseAll fault
  return { regex, names := s.names }

end PatternReader

open PatternReader in
/-- Reads a search pattern. -/
def WrittenPattern.read (text : String) : Except PatternError WrittenPattern :=
  readPattern.run' { ahead := tokens text.toList }

end GrammarManual
