import GrammarManual.Settings.Value
import GrammarManual.Text.Case
import GrammarManual.Text.Letter
import GrammarManual.Text.Quoted
import GrammarManual.Yaml.Node

/-!
# Yaml/Value: what a YAML text stands for

A plain text without tag may stand for a number, a truth value, nothing or a date (`Plain.kind`);
every other text stands for itself, and a tag says what a node has to be. Numbers may be octal,
hexadecimal, binary or in groups of sixty.

The key `<<` takes over the entries of another mapping, which the mapping's own entries override.
-/

namespace GrammarManual.Yaml

/-! ## 1. Dates -/

/-- What is wrong with a date. -/
inductive DateFault where
  | year
  | month
  | day
  | hour
  | minute
  | second
  /-- The distance to universal time, in minutes, is a day or more. -/
  | zone (minutes : Int)
  deriving DecidableEq, Repr, Inhabited

/-- A span of time of whole minutes, in days and seconds; the days carry the sign. -/
def spanText (minutes : Int) : String :=
  let days := minutes / 1440
  let seconds := minutes % 1440 * 60
  "datetime.timedelta(days=" ++ toString days
    ++ (if seconds = 0 then "" else ", seconds=" ++ toString seconds) ++ ")"

/-- The wording of a fault. -/
def DateFault.message : DateFault → String
  | .year => "year 0 is out of range"
  | .month => "month must be in 1..12"
  | .day => "day is out of range for month"
  | .hour => "hour must be in 0..23"
  | .minute => "minute must be in 0..59"
  | .second => "second must be in 0..59"
  | .zone minutes =>
    "offset must be a timedelta strictly between -timedelta(hours=24) and timedelta(hours=24), not "
      ++ spanText minutes ++ "."

/-- Why a text is not understood. -/
inductive YamlError where
  /-- The text is no document, or a value does not fit its tag. -/
  | malformed
  | noDate (fault : DateFault)
  /-- What ought to be an integer in a base is none. -/
  | noInteger (base : Nat) (text : String)
  | noFloat (text : String)
  deriving DecidableEq, Repr, Inhabited

/-- The wording of an error, as far as it has one of its own. -/
def YamlError.message : YamlError → Option String
  | .malformed => none
  | .noDate fault => some fault.message
  | .noInteger base text =>
    some ("invalid literal for int() with base " ++ toString base ++ ": " ++ Text.quoted text)
  | .noFloat text => some ("could not convert string to float: " ++ Text.quoted text)

/-- What a text stands for, or why it is not understood. -/
abbrev Read (α : Type) := Except YamlError α

namespace Plain

/-- The number that decimal digits write. -/
def decimal (ds : List Char) : Nat := ds.foldl (fun n c => 10 * n + (c.toNat - 0x30)) 0

/-- A number of at least `least` and at most `most` digits at the front, and what follows. -/
def digits? (least most : Nat) (s : List Char) : Option (Nat × List Char) :=
  let ds := (s.take most).takeWhile Char.isDigit
  if ds.length < least then none else some (decimal ds, s.drop ds.length)

/-- What follows a character at the front. -/
def after? (c : Char) : List Char → Option (List Char)
  | x :: rest => if x = c then some rest else none
  | [] => none

/-- A date, perhaps with a time. -/
structure Date where
  year : Nat
  month : Nat
  day : Nat
  /-- Hour, minute and second. -/
  time : Option (Nat × Nat × Nat) := none
  /-- The distance to universal time, in minutes. -/
  zone : Int := 0
  deriving DecidableEq, Repr, Inhabited

/-- The distance to universal time at the end of a time, behind a fraction of a second. -/
def timeEnd? (s : List Char) : Option Int :=
  let s := match s with
    | '.' :: rest => rest.dropWhile Char.isDigit
    | _ => s
  match s.dropWhile isGap with
  | [] => if s.isEmpty then some 0 else none
  | ['Z'] => some 0
  | c :: rest =>
    if c = '+' ∨ c = '-' then
      let signed (minutes : Nat) : Int := if c = '-' then -(minutes : Int) else minutes
      match digits? 1 2 rest with
      | some (hours, []) => some (signed (60 * hours))
      | some (hours, ':' :: rest') =>
        match digits? 2 2 rest' with
        | some (minutes, []) => some (signed (60 * hours + minutes))
        | _ => none
      | _ => none
    else none

/-- The date that a text writes. With a time behind it, month and day may have one digit. -/
def date? (s : List Char) : Option Date := do
  let (year, s1) ← digits? 4 4 s
  let (month, s2) ← digits? 1 2 (← after? '-' s1)
  let s3 ← after? '-' s2
  let (day, s4) ← digits? 1 2 s3
  if s4.isEmpty then
    if s.length = 10 then some { year, month, day } else none
  else
    let gap := s4.takeWhile isGap
    let s5 ← if gap.isEmpty then (after? 'T' s4).orElse fun _ => after? 't' s4
      else some (s4.drop gap.length)
    let (hour, s6) ← digits? 1 2 s5
    let (minute, s7) ← digits? 2 2 (← after? ':' s6)
    let (second, s8) ← digits? 2 2 (← after? ':' s7)
    let zone ← timeEnd? s8
    some { year, month, day, time := some (hour, minute, second), zone }

/-- How many days a month has. -/
def monthLength (year month : Nat) : Nat :=
  if month = 2 then
    if year % 4 = 0 && (year % 100 ≠ 0 || year % 400 = 0) then 29 else 28
  else if [4, 6, 9, 11].contains month then 30
  else 31

/-- The first thing that is wrong with a date. -/
def Date.fault? (d : Date) : Option DateFault :=
  if 1440 ≤ d.zone.natAbs then some (.zone d.zone)
  else if d.year = 0 then some .year
  else if d.month = 0 || 12 < d.month then some .month
  else if d.day = 0 || monthLength d.year d.month < d.day then some .day
  else
    match d.time with
    | none => none
    | some (hour, minute, second) =>
      if 23 < hour then some .hour
      else if 59 < minute then some .minute
      else if 59 < second then some .second
      else none

/-! ## 2. Numbers -/

/-- A sign at the front and what follows: whether it is a minus. -/
def sign (s : List Char) : Bool × List Char :=
  match s with
  | '-' :: rest => (true, rest)
  | '+' :: rest => (false, rest)
  | _ => (false, s)

/-- The pieces of a text between colons. -/
def colonParts : List Char → List (List Char)
  | [] => [[]]
  | c :: rest =>
    if c = ':' then [] :: colonParts rest
    else
      match colonParts rest with
      | [] => [[c]]
      | p :: ps => (c :: p) :: ps

/-- Decimal digits and underscores. -/
def isDigitPart (c : Char) : Bool := c.isDigit || c = '_'

/-- Whether a piece is a number below sixty. -/
def isSixtieth (p : List Char) : Bool :=
  match p with
  | [a] => a.isDigit
  | [a, b] => '0' ≤ a && a ≤ '5' && b.isDigit
  | _ => false

/-- Whether a text without sign is an integer. -/
def isInteger (s : List Char) : Bool :=
  match s with
  | '0' :: 'b' :: ds => !ds.isEmpty && ds.all fun c => c = '0' || c = '1' || c = '_'
  | '0' :: 'x' :: ds => !ds.isEmpty && ds.all fun c => (hexValue? c).isSome || c = '_'
  | '0' :: ds => ds.all fun c => ('0' ≤ c && c ≤ '7') || c = '_'
  | c :: _ =>
    c.isDigit &&
      match colonParts s with
      | whole :: parts => whole.all isDigitPart && parts.all isSixtieth
      | [] => false
  | [] => false

/-- Whether what follows the digits of a float is its exponent, which has a sign. -/
def isExponent (s : List Char) : Bool :=
  match s with
  | [] => true
  | e :: sign :: ds =>
    (e = 'e' || e = 'E') && (sign = '+' || sign = '-') && !ds.isEmpty && ds.all Char.isDigit
  | _ => false

/-- Names of numbers that are not finite. -/
def infinities : List (List Char) := [".inf".toList, ".Inf".toList, ".INF".toList]

/-- Names of what is not a number. -/
def noNumbers : List (List Char) := [".nan".toList, ".NaN".toList, ".NAN".toList]

/-- Whether a text is a float. It has a point; only a number that begins with a digit, or an
    infinite one, has a sign. -/
def isFloat (s : List Char) : Bool :=
  let (_, magnitude) := sign s
  let whole := magnitude.takeWhile fun c => isDigitPart c || c = ':'
  match magnitude.drop whole.length with
  | '.' :: rest =>
    let fraction := rest.takeWhile isDigitPart
    let tail := rest.drop fraction.length
    match whole with
    | [] =>
      infinities.contains magnitude || (s = magnitude && noNumbers.contains magnitude)
        || (s = magnitude && (fraction.head?.map Char.isDigit).getD false && isExponent tail)
    | c :: _ =>
      c.isDigit &&
        match colonParts whole with
        | [_] => isExponent tail
        | _ :: parts => parts.all isSixtieth && tail.isEmpty
        | [] => false
  | _ => false

/-- The value of a digit in a base up to sixteen; digits need not be those below 128. -/
def digitValue? (base : Nat) (c : Char) : Option Nat :=
  let value := if Letter.isDecimal c then some (Letter.decimalValue c) else hexValue? c
  value.filter (· < base)

/-- The number that digits write in a base; there is at least one. -/
def natural? (base : Nat) (ds : List Char) : Option Nat :=
  if ds.isEmpty then none
  else ds.foldl (fun n c => do return base * (← n) + (← digitValue? base c)) (some 0)

/-- The letters that may name a base behind a zero. -/
def baseLetters : Nat → List Char
  | 2 => ['b', 'B']
  | 8 => ['o', 'O']
  | 16 => ['x', 'X']
  | _ => []

/-- The integer that a text writes in a base; white space around it does not count, and its base
    may be named once more. -/
def inBase (base : Nat) (s : List Char) : Read Int :=
  let (negative, rest) := sign (Text.dropEndWhile isBlank (s.dropWhile isBlank))
  let ds :=
    match rest with
    | '0' :: c :: more => if (baseLetters base).contains c then more else rest
    | _ => rest
  match natural? base ds with
  | some n => .ok (if negative then -(n : Int) else n)
  | none => .error (.noInteger base (String.ofList s))

/-- Reads parts in groups of sixty. -/
def sixties (parts : List (List Char)) : Nat := parts.foldl (fun n p => 60 * n + decimal p) 0

/-- The parts of an integer in groups of sixty. -/
def integerParts : List (List Char) → Read (List Int)
  | [] => .ok []
  | p :: ps => do
    let n ← inBase 10 p
    let more ← integerParts ps
    return n :: more

/-- The integer that a text writes: its form says the base. -/
def integer (s : List Char) : Read Int := do
  let (negative, rest) := sign (s.filter (· ≠ '_'))
  let size ←
    match rest with
    | [] => .error .malformed
    | ['0'] => .ok 0
    | '0' :: 'b' :: ds => inBase 2 ds
    | '0' :: 'x' :: ds => inBase 16 ds
    | '0' :: _ => inBase 8 rest
    | _ =>
      if rest.contains ':' then
        (integerParts (colonParts rest)).map fun parts => parts.foldl (60 * · + ·) 0
      else inBase 10 rest
  return if negative then -size else size

/-- The float that decimal digits write, with a point and an exponent if there are some. -/
def decimalFloat? (s : List Char) : Option Binary64 :=
  let whole := s.takeWhile Letter.isDecimal
  let (fraction, rest) :=
    match s.drop whole.length with
    | '.' :: rest => (rest.takeWhile Letter.isDecimal, rest.dropWhile Letter.isDecimal)
    | rest => ([], rest)
  match natural? 10 (whole ++ fraction), rest with
  | none, _ => none
  | some n, [] => some (.ofDecimal n (-(fraction.length : Int)))
  | some n, 'e' :: ds =>
    let (negative, ds) := sign ds
    (natural? 10 ds).map fun m =>
      .ofDecimal n ((if negative then -(m : Int) else m) - fraction.length)
  | some _, _ => none

/-- The float that a text in small letters writes; white space around it does not count. -/
def looseFloat (s : List Char) : Read Binary64 :=
  let (negative, rest) := sign (Text.dropEndWhile isBlank (s.dropWhile isBlank))
  let size :=
    if rest = "inf".toList ∨ rest = "infinity".toList then some (.infinite false)
    else if rest = "nan".toList then some .nan
    else decimalFloat? rest
  match size with
  | some x => .ok (if negative then x.neg else x)
  | none => .error (.noFloat (String.ofList s))

/-- The size of a float whose whole part is written in groups of sixty. -/
def sixtiesFloat (s : List Char) : Read Binary64 := do
  for p in colonParts s do
    let _ ← looseFloat p
  let whole := s.takeWhile (· ≠ '.')
  let fraction := (s.drop (whole.length + 1)).takeWhile Char.isDigit
  return .ofDecimal (sixties (colonParts whole) * Nat.pow 10 fraction.length + decimal fraction)
    (-(fraction.length : Int))

/-- The float that a text writes. -/
def float (s : List Char) : Read Binary64 := do
  let small := (s.filter (· ≠ '_')).map fun c => Char.ofNat (Case.lower c.toNat)
  let (negative, rest) := sign small
  let size ←
    if small.isEmpty then .error .malformed
    else if rest = ".inf".toList then .ok (.infinite false)
    else if rest = ".nan".toList then .ok .nan
    else if rest.contains ':' then sixtiesFloat rest
    else looseFloat rest
  return if negative then size.neg else size

/-! ## 3. Plain texts -/

/-- What a plain text may stand for. -/
inductive Kind where
  | null
  | bool (b : Bool)
  | integer
  | float
  | date (d : Date)
  /-- The key that takes over another mapping. -/
  | merge
  /-- A sign that stands for itself as a key and for nothing as a value. -/
  | equals
  | text
  deriving DecidableEq, Repr, Inhabited

/-- Words for truth values, and those with other letters in capitals. -/
def truths : List (String × Bool) :=
  [("yes", true), ("Yes", true), ("YES", true), ("no", false), ("No", false), ("NO", false),
   ("true", true), ("True", true), ("TRUE", true), ("false", false), ("False", false),
   ("FALSE", false), ("on", true), ("On", true), ("ON", true), ("off", false), ("Off", false),
   ("OFF", false)]

/-- Words for nothing. -/
def nulls : List String := ["", "~", "null", "Null", "NULL"]

/-- What a plain text stands for. -/
def kind (s : List Char) : Kind :=
  if nulls.contains (String.ofList s) then .null
  else if s = ['<', '<'] then .merge
  else if s = ['='] then .equals
  else
    match truths.lookup (String.ofList s) with
    | some b => .bool b
    | none =>
      if isFloat s then .float
      else if isInteger (sign s).2 then .integer
      else
        match date? s with
        | some d => .date d
        | none => .text

end Plain

/-! ## 4. Values -/

namespace Node

/-- The full form of a tag that every text may use. -/
def commonTag (name : String) : List Char := ("tag:yaml.org,2002:" ++ name).toList

/-- What a text stands for that says its kind by its form. -/
def plainValue (s : List Char) : Read Value :=
  match Plain.kind s with
  | .null => .ok .null
  | .bool b => .ok (.bool b)
  | .integer => (Plain.integer s).map .int
  | .float => (Plain.float s).map .float
  | .date d => (d.fault?).elim (.ok .other) fun f => .error (.noDate f)
  | .merge => .error .malformed
  | .equals => .error .malformed
  | .text => .ok (.text (String.ofList s))

/-- What a text with a tag stands for. -/
def taggedValue (tag s : List Char) : Read Value :=
  if tag = commonTag "str" then .ok (.text (String.ofList s))
  else if tag = commonTag "null" then .ok .null
  else if tag = commonTag "bool" then
    match Plain.truths.lookup (String.ofList (s.map Char.toLower)) with
    | some b => .ok (.bool b)
    | none => .error .malformed
  else if tag = commonTag "int" then
    (Plain.integer s).map .int
  else if tag = commonTag "float" then (Plain.float s).map .float
  else if tag = commonTag "timestamp" then
    match Plain.date? s with
    | some d => (d.fault?).elim (.ok .other) fun f => .error (.noDate f)
    | none => .error .malformed
  else if tag = commonTag "binary" then .ok .other
  else .error .malformed

/-- Whether a node is the key that takes over another mapping. -/
def isMerge : Node → Bool
  | .text _ none isPlain s => isPlain && Plain.kind s = .merge
  | .text _ (some tag) _ s =>
    tag = commonTag "merge" || (tag = ['!'] && Plain.kind s = .merge)
  | _ => false

/-- Whether a node is a sign that stands for itself as a key. -/
def isEquals : Node → Bool
  | .text _ none isPlain s => isPlain && Plain.kind s = .equals
  | .text _ (some tag) _ s => tag = ['!'] && Plain.kind s = .equals
  | _ => false

/-- Whether a value may be a key. -/
def isKey : Value → Bool
  | .list _ => false
  | .table _ => false
  | _ => true

/-- The values of a mapping from what it takes over and its own entries. -/
structure Entries where
  merged : List (Value × Value) := []
  own : List (Value × Value) := []
  deriving Repr, Inhabited

/-- All entries, those that count more behind the others. -/
def Entries.all (e : Entries) : List (Value × Value) := e.merged ++ e.own

mutual

/-- What a node stands for. -/
def value : Node → Read Value
  | .text _ tag isPlain s =>
    match tag with
    | none => if isPlain then plainValue s else .ok (.text (String.ofList s))
    | some tag => if tag = ['!'] then plainValue s else taggedValue tag s
  | .sequence _ tag items => do
    let values ← itemValues items
    match tag with
    | none => .ok (.list values)
    | some tag =>
      if tag = ['!'] || tag = commonTag "seq" then .ok (.list values)
      else if tag = commonTag "omap" || tag = commonTag "pairs" then
        .ok (.list (values.map fun _ => Value.other))
      else .error .malformed
  | .mapping _ tag entries => do
    let e ← entryValues entries
    match tag with
    | none => .ok (.table e.all)
    | some tag =>
      if tag = ['!'] || tag = commonTag "map" then .ok (.table e.all)
      else if tag = commonTag "set" then .ok .other
      else .error .malformed
  | .alias _ => .ok .other

/-- What the items of a sequence stand for. -/
def itemValues : List Node → Read (List Value)
  | [] => .ok []
  | n :: rest => do
    let v ← value n
    let vs ← itemValues rest
    .ok (v :: vs)

/-- What the entries of a mapping stand for. Of several that it takes over the first ones count
    more. -/
def entryValues : List (Node × Node) → Read Entries
  | [] => .ok {}
  | (k, v) :: rest => do
    if isMerge k then
      let merged ← mergedValues v
      let e ← entryValues rest
      .ok { e with merged := merged ++ e.merged }
    else
      let key ← if isEquals k then .ok (.text "=") else value k
      if !isKey key then .error .malformed
      else
        let v ← value v
        let e ← entryValues rest
        .ok { e with own := (key, v) :: e.own }

/-- The entries that a mapping takes over from a mapping or from a sequence of them. -/
def mergedValues : Node → Read (List (Value × Value))
  | .mapping _ _ entries => do
    let e ← entryValues entries
    .ok e.all
  | .sequence _ _ items => mergedItems items
  | _ => .error .malformed

/-- The entries of several mappings, those of the first one last. -/
def mergedItems : List Node → Read (List (Value × Value))
  | [] => .ok []
  | .mapping _ _ entries :: rest => do
    let e ← entryValues entries
    let more ← mergedItems rest
    .ok (more ++ e.all)
  | _ :: _ => .error .malformed

end

end Node

/-- What a text stands for. A text without document stands for nothing. -/
def read (s : List Char) : Read Value :=
  match tree? s with
  | none => .error .malformed
  | some none => .ok .null
  | some (some n) => n.value

end GrammarManual.Yaml
