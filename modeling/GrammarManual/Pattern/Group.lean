import GrammarManual.Pattern.Escape
import GrammarManual.Text.Identifier

/-!
# Pattern/Group: what a group begins with

Behind the `(` of a group may stand a question mark and signs that say what the group is for: a
name, flags, a look ahead or back, a choice. `readOpening` reads them, up to what the group holds;
comments, flags for the whole pattern and references by name hold nothing.
-/

namespace GrammarManual.PatternReader

/-! ## 1. Flags -/

/-- The flag of a letter. -/
def Flag.ofChar? : Char → Option Flag
  | 'i' => some .ignoreCase
  | 'L' => some .locale
  | 'm' => some .multiline
  | 's' => some .dotAll
  | 'x' => some .verbose
  | 'a' => some .ascii
  | 't' => some .template
  | 'u' => some .unicode
  | _ => none

/-- Whether a flag says which letters there are. Only one such flag can hold. -/
def Flag.isAlphabet (flag : Flag) : Bool := flag = .ascii || flag = .locale || flag = .unicode

/-- The flags inside of a group that switches some on and some off. -/
def combine (flags on off : List Flag) : List Flag :=
  let kept := if on.any Flag.isAlphabet then flags.filter fun f => !f.isAlphabet else flags
  (kept ++ on).filter fun f => !off.contains f

/-- Refuses a token that is no flag; `absent` tells of what is missing. -/
def refuseFlag {α : Type} (absent : PatternFault) (t : Token) : Reader α :=
  match t with
  | .plain c => refuse (if Identifier.isLetter c then .unknownFlag else absent) 1
  | _ => refuse absent t.width

/-- Reads the flags to switch on, of which the last one read is `flag`, and the sign behind them. -/
def readOn : Nat → List Flag → Flag → Reader (List Flag × Char)
  | 0, _, _ => refuse .openFlags
  | n + 1, on, flag => do
    if flag = .locale then refuse .localeFlag
    if flag.isAlphabet && on.any fun f => f.isAlphabet && f ≠ flag then refuse .severalAlphabets
    match ← next with
    | none => refuse .openFlags
    | some t =>
      if t = .plain ')' then return (flag :: on, ')')
      else if t = .plain '-' then return (flag :: on, '-')
      else if t = .plain ':' then return (flag :: on, ':')
      else
        match t with
        | .plain c =>
          match Flag.ofChar? c with
          | some f => readOn n (flag :: on) f
          | none => refuseFlag .openFlags t
        | _ => refuseFlag .openFlags t

/-- Reads the flags to switch off up to the colon behind them. -/
def readOff : Nat → List Flag → Flag → Reader (List Flag)
  | 0, _, _ => refuse .noColon
  | n + 1, off, flag => do
    if flag.isAlphabet then refuse .alphabetOff
    match ← next with
    | none => refuse .noColon
    | some t =>
      if t = .plain ':' then return flag :: off
      else
        match t with
        | .plain c =>
          match Flag.ofChar? c with
          | some f => readOff n (flag :: off) f
          | none => refuseFlag .noColon t
        | _ => refuseFlag .noColon t

/-- Reads the flags to switch off behind a hyphen. -/
def readFirstOff : Reader (List Flag) := do
  match ← next with
  | none => refuse .noFlag
  | some t =>
    match t with
    | .plain c =>
      match Flag.ofChar? c with
      | some f => readOff ((← get).ahead.length + 1) [] f
      | none => refuseFlag .noFlag t
    | _ => refuseFlag .noFlag t

/-- Reads flags behind the first flag or the hyphen: those to switch on and off for a group, or none
    if they hold for the whole. -/
def readFlags (first : Option Flag) : Reader (Option (List Flag × List Flag)) := do
  let (on, sign) ←
    match first with
    | some flag => readOn ((← get).ahead.length + 1) [] flag
    | none => pure ([], '-')
  if sign = ')' then
    modify fun s => { s with flags := s.flags ++ on }
    return none
  if on.contains .template then refuse .globalOn 1
  let off ← if sign = '-' then readFirstOff else pure []
  if off.contains .template then refuse .globalOff 1
  if on.any off.contains then refuse .onAndOff 1
  return some (on, off)

/-! ## 2. Openings -/

/-- What stands behind the `(` of a group. -/
inductive Opening where
  /-- A comment, or flags for the whole: there is no group. -/
  | nothing
  /-- A group that is taken up again. -/
  | reference (item : Item)
  | capture (name : Option String)
  | plain (on off : List Flag)
  | atomic
  | ahead (negated : Bool)
  | behind (negated : Bool)
  | choice (index : Nat)

/-- Reads the name of a group. -/
def readGroupName (close : Char) : Reader String := do
  let name ← readName close "group name"
  if !Identifier.isIdentifier name then refuse (.badGroupName name) (name.length + 1)
  return name

/-- Reads `(?P=name)` behind the equals sign. -/
def readNamedReference : Reader Opening := do
  let name ← readGroupName ')'
  match (← get).names.lookup name with
  | none => refuse (.unknownName name) (name.length + 1)
  | some index =>
    let width ← referTo index (name.length + 1)
    return .reference (.ordinary (.again (← lettering) index width))

/-- Skips a comment up to its `)`; `start` is the place of its `(`, `n` bounds the tokens. -/
def skipComment (start : Nat) : Nat → Reader Unit
  | 0 => refuseAt .openComment start
  | n + 1 => do
    match ← next with
    | none => refuseAt .openComment start
    | some t => if t ≠ .plain ')' then skipComment start n

/-- The most groups that a pattern may have. -/
def mostGroups : Nat := 1073741823

/-- Reads which group a choice asks for, by its name or its number. -/
def readChoice : Reader Nat := do
  let name ← readName ')' "group name"
  let back := name.length + 1
  let index ←
    if Identifier.isIdentifier name then
      match (← get).names.lookup name with
      | some index => pure index
      | none => refuse (.unknownName name) back
    else
      match Text.integer? name with
      | some (.ofNat 0) => refuse .groupZero back
      | some (.ofNat n) =>
        if mostGroups ≤ n then refuse (.badReference n) back
        modify fun s =>
          if (s.asked.lookup n).isSome then s
          else { s with asked := s.asked ++ [(n, s.position - back)] }
        pure n
      | _ => refuse (.badGroupName name) back
  checkLookingBack index
  return index

/-- Refuses what stands where signs of a group are expected; `signs` are those before it. -/
def refuseExtension {α : Type} (signs : String) (t : Option Token) : Reader α :=
  match t with
  | none => refuse .endInGroup
  | some t => refuse (.unknownExtension (signs ++ t.text)) (signs.length + t.width)

/-- Reads what stands behind `(?`; `start` is the place of the `(`, and `atStart` says that nothing
    stands before it. -/
def readExtension (start : Nat) (atStart : Bool) : Reader Opening := do
  match ← next with
  | some (.plain 'P') =>
    if ← accept '<' then return .capture (some (← readGroupName '>'))
    if ← accept '=' then return ← readNamedReference
    refuseExtension "?P" (← next)
  | some (.plain ':') => return .plain [] []
  | some (.plain '>') => return .atomic
  | some (.plain '=') => return .ahead false
  | some (.plain '!') => return .ahead true
  | some (.plain '<') =>
    match ← next with
    | some (.plain '=') => return .behind false
    | some (.plain '!') => return .behind true
    | t => refuseExtension "?<" t
  | some (.plain '#') =>
    skipComment start ((← get).ahead.length + 1)
    return .nothing
  | some (.plain '(') => return .choice (← readChoice)
  | some (.plain c) =>
    let flag := Flag.ofChar? c
    if flag.isNone && c ≠ '-' then refuseExtension "?" (some (.plain c))
    match ← readFlags flag with
    | some (on, off) => return .plain on off
    | none => if atStart then return .nothing else refuseAt .lateFlags start
  | t => refuseExtension "?" t

/-- Reads what stands behind the `(` of a group. -/
def readOpening (start : Nat) (atStart : Bool) : Reader Opening := do
  if ← accept '?' then readExtension start atStart else return .capture none

end GrammarManual.PatternReader
