import GrammarManual.Pattern.Basic
import GrammarManual.Text.Blank
import GrammarManual.Text.Case
import GrammarManual.Text.Letter

/-!
# Pattern/Regex: regular expressions and where they match

A `WrittenPattern` is a regular expression with groups. `WrittenPattern.search` finds the leftmost
place where it matches; among the matches there it takes the one that comes first when
alternatives are tried from left to right, greedy repetitions longest first and lazy ones shortest
first. The match reports what each group took last.

* `Regex.width` -- how many characters an expression takes; a look back needs to know;
* `Regex.fault?` -- what is wrong with an expression though its parts can be read;
* `Regex.run` -- matching, with what is to come behind as a function.
-/

namespace GrammarManual

/-! ## 1. Characters -/

/-- What counts as a letter, and as the same letter. -/
structure Lettering where
  /-- Letters that differ in case only are the same. -/
  ignoreCase : Bool := false
  /-- Letters, digits and white space are those of ASCII. -/
  ascii : Bool := false
  deriving DecidableEq, Repr, Inhabited

namespace Lettering

/-- Letters, numbers and the underscore. -/
def isWord (l : Lettering) (c : Char) : Bool := Letter.isWord c && (!l.ascii || c.toNat < 128)

/-- Decimal digits. -/
def isDecimal (l : Lettering) (c : Char) : Bool :=
  Letter.isDecimal c && (!l.ascii || c.toNat < 128)

/-- White space. Among the characters of ASCII the information separators are none. -/
def isBlank (l : Lettering) (c : Char) : Bool :=
  if l.ascii then 0x09 ≤ c.toNat && c.toNat ≤ 0x0d || c == ' ' else GrammarManual.isBlank c

/-- The lower case of a code point. -/
def lower (l : Lettering) (n : Nat) : Nat :=
  if l.ascii && 128 ≤ n then n else Case.lower n

/-- The code points that count as `n`. -/
def variants (l : Lettering) (n : Nat) : List Nat :=
  if !l.ignoreCase then [n]
  else if !l.ascii then Case.variants n
  else if 0x61 ≤ l.lower n ∧ l.lower n ≤ 0x7a then [l.lower n, l.lower n - 0x20]
  else [n]

/-- Whether two characters are the same. Where a text is taken up again, look-alikes such as the long
    s and s are not. -/
def same (l : Lettering) (c d : Char) : Bool :=
  if l.ignoreCase then l.lower c.toNat == l.lower d.toNat else c == d

end Lettering

/-- A member of a character class. -/
inductive ClassItem where
  /-- From a code point to another. -/
  | range (first last : Nat)
  | word (negated : Bool)
  | blank (negated : Bool)
  | decimal (negated : Bool)
  deriving DecidableEq, Repr, Inhabited

/-- Whether a character belongs to a class item. -/
def ClassItem.holds (l : Lettering) : ClassItem → Char → Bool
  | .range first last, c => (l.variants c.toNat).any fun n => first ≤ n && n ≤ last
  | .word negated, c => l.isWord c != negated
  | .blank negated, c => l.isBlank c != negated
  | .decimal negated, c => l.isDecimal c != negated

/-! ## 2. Expressions -/

/-- A place in a text. -/
inductive Anchor where
  | start
  | lineStart
  | stop
  | lineStop
  /-- The end of the text, or the place before a newline that ends it. -/
  | lastStop
  /-- Where a word begins or ends, or, negated, everywhere else. -/
  | boundary (lettering : Lettering) (negated : Bool)
  deriving DecidableEq, Repr, Inhabited

/-- How often a repetition is tried first. -/
inductive Eagerness where
  | greedy
  | lazy
  /-- As often as it goes, and nothing of it is given back. -/
  | possessive
  deriving DecidableEq, Repr, Inhabited

/-- How many characters an expression takes; `none` if there is no bound. -/
structure Width where
  least : Nat
  most : Option Nat
  deriving DecidableEq, Repr, Inhabited

/-- A regular expression. -/
inductive Regex where
  | empty
  /-- Any character, newlines perhaps excepted. -/
  | any (newlines : Bool)
  /-- One character of a class, or one outside it. -/
  | chars (lettering : Lettering) (negated : Bool) (items : List ClassItem)
  | anchor (p : Anchor)
  | seq (first second : Regex)
  | alt (first second : Regex)
  | group (index : Nat) (body : Regex)
  /-- At least `least` times and, if there is a bound, at most `most` times. -/
  | loop (body : Regex) (least : Nat) (most : Option Nat) (eagerness : Eagerness)
  /-- The first match only. -/
  | atomic (body : Regex)
  /-- Whether something comes next, or does not. -/
  | ahead (negated : Bool) (body : Regex)
  /-- Whether something came just before, or did not. -/
  | behind (negated : Bool) (body : Regex)
  /-- What a group took, once more; `width` is that of the group. -/
  | again (lettering : Lettering) (index : Nat) (width : Width)
  /-- One thing if a group takes part, another if not. -/
  | choice (index : Nat) (first second : Regex)
  deriving Repr, Inhabited

/-- A regular expression with the names of its groups. -/
structure WrittenPattern where
  regex : Regex
  /-- The number of each named group. -/
  names : List (String × Nat) := []
  deriving Repr, Inhabited

/-! ## 3. Widths and faults -/

namespace Width

/-- One thing behind another. -/
def add (v w : Width) : Width where
  least := v.least + w.least
  most := return (← v.most) + (← w.most)

/-- One thing or another. -/
def or (v w : Width) : Width where
  least := min v.least w.least
  most := return max (← v.most) (← w.most)

/-- One thing several times. -/
def times (w : Width) (least : Nat) (most : Option Nat) : Width where
  least := w.least * least
  most := if w.most = some 0 ∨ most = some 0 then some 0 else return (← w.most) * (← most)

end Width

/-- How many characters an expression takes. -/
def Regex.width : Regex → Width
  | .empty | .anchor _ | .ahead _ _ | .behind _ _ => ⟨0, some 0⟩
  | .any _ | .chars _ _ _ => ⟨1, some 1⟩
  | .seq first second => (width first).add (width second)
  | .alt first second => (width first).or (width second)
  | .group _ body | .atomic body => width body
  | .loop body least most _ => (width body).times least most
  | .again _ _ w => w
  | .choice _ first second => (width first).or (width second)

/-- The name of a repetition in messages. -/
def Eagerness.name : Eagerness → String
  | .greedy => "MAX_REPEAT"
  | .lazy => "MIN_REPEAT"
  | .possessive => "POSSESSIVE_REPEAT"

/-- What is wrong with an expression though its parts can be read: a look back has to know how far,
    and in a `template` nothing is repeated. -/
def Regex.fault? (template : Bool) : Regex → Option PatternFault
  | .empty | .any _ | .chars _ _ _ | .anchor _ | .again _ _ _ => none
  | .seq first second | .alt first second | .choice _ first second =>
    (fault? template first).or (fault? template second)
  | .group _ body | .atomic body | .ahead _ body => fault? template body
  | .loop body _ _ eagerness =>
    if template then some (.template eagerness.name) else fault? template body
  | .behind _ body =>
    let w := body.width
    if 0xffffffff < w.least then some .farBehind
    else if w.most ≠ some w.least then some .openWidth
    else fault? template body

/-! ## 4. Matching -/

/-- Where a match is. -/
structure Spot where
  /-- How many characters lie behind. -/
  position : Nat := 0
  /-- The characters behind, the nearest first. -/
  behind : List Char := []
  /-- The characters ahead. -/
  ahead : List Char
  /-- What groups have taken, the last taken first. -/
  taken : List (Nat × List Char) := []
  deriving Repr, Inhabited

namespace Spot

/-- The next character and the spot behind it. -/
def next? (s : Spot) : Option (Char × Spot) :=
  match s.ahead with
  | [] => none
  | c :: rest =>
    some (c, { s with position := s.position + 1, behind := c :: s.behind, ahead := rest })

/-- The spot `n` characters back. -/
def back? : Nat → Spot → Option Spot
  | 0, s => some s
  | n + 1, s =>
    match s.behind with
    | [] => none
    | c :: rest =>
      back? n { s with position := s.position - 1, behind := rest, ahead := c :: s.ahead }

/-- Steps behind a text that is ahead. -/
def past? (l : Lettering) : List Char → Spot → Option Spot
  | [], s => some s
  | c :: text, s =>
    match s.next? with
    | some (d, s') => if l.same c d then past? l text s' else none
    | none => none

/-- The spots between the characters of a text, from the left; `position` and `behind` say what comes
    before it. -/
def all (position : Nat) (behind : List Char) : List Char → List Spot
  | [] => [{ position, behind, ahead := [] }]
  | c :: rest => { position, behind, ahead := c :: rest } :: all (position + 1) (c :: behind) rest

/-- What was passed since an earlier spot. -/
def since (s earlier : Spot) : List Char := earlier.ahead.take (s.position - earlier.position)

end Spot

/-- Whether a spot is at a place. A text without characters has no boundaries, nor places that are
    none. -/
def Anchor.holds : Anchor → Spot → Bool
  | .start, s => s.behind.isEmpty
  | .lineStart, s => s.behind.head?.all (· == '\n')
  | .stop, s => s.ahead.isEmpty
  | .lineStop, s => s.ahead.head?.all (· == '\n')
  | .lastStop, s => s.ahead.isEmpty || s.ahead == ['\n']
  | .boundary l negated, s =>
    !(s.behind.isEmpty && s.ahead.isEmpty)
      && (s.behind.head?.any l.isWord != s.ahead.head?.any l.isWord) != negated

namespace Regex

/-- Goes on behind the required repetitions of a loop. `step` matches the body once. A round that
    takes nothing is the last one, so the characters ahead bound the `rounds`. -/
def repeatMore (step : Spot → (Spot → Option Spot) → Option Spot) (greedy : Bool)
    (k : Spot → Option Spot) : Nat → Option Nat → Spot → Option Spot
  | 0, _, s => k s
  | rounds + 1, most, s =>
    let again (left : Option Nat) : Option Spot :=
      step s fun s' =>
        if s'.position = s.position then k s' else repeatMore step greedy k rounds left s'
    match most, greedy with
    | some 0, _ => k s
    | some (n + 1), true => (again (some n)).or (k s)
    | some (n + 1), false => (k s).or (again (some n))
    | none, true => (again none).or (k s)
    | none, false => (k s).or (again none)

/-- Matches a body a fixed number of times. -/
def repeatExactly (step : Spot → (Spot → Option Spot) → Option Spot) :
    Nat → Spot → (Spot → Option Spot) → Option Spot
  | 0, s, k => k s
  | n + 1, s, k => step s fun s' => repeatExactly step n s' k

/-- Matches a regular expression at a spot and goes on with `k`, which may refuse. -/
def run : Regex → Spot → (Spot → Option Spot) → Option Spot
  | .empty, s, k => k s
  | .any newlines, s, k =>
    match s.next? with
    | some (c, s') => if newlines || c != '\n' then k s' else none
    | none => none
  | .chars l negated items, s, k =>
    match s.next? with
    | some (c, s') => if items.any (fun item => item.holds l c) != negated then k s' else none
    | none => none
  | .anchor p, s, k => if p.holds s then k s else none
  | .seq first second, s, k => run first s fun s' => run second s' k
  | .alt first second, s, k => (run first s k).or (run second s k)
  | .group index body, s, k =>
    run body s fun s' => k { s' with taken := (index, s'.since s) :: s'.taken }
  | .loop body least most eagerness, s, k =>
    -- every round of a possessive loop is settled by itself
    let step : Spot → (Spot → Option Spot) → Option Spot :=
      if eagerness = .possessive then fun s k => (run body s some).bind k else run body
    let loop (k : Spot → Option Spot) : Option Spot :=
      repeatExactly step least s fun s' =>
        repeatMore step (eagerness ≠ .lazy) k (s'.ahead.length + 1) (most.map (· - least)) s'
    if eagerness = .possessive then (loop some).bind k else loop k
  | .atomic body, s, k => (run body s some).bind k
  | .ahead negated body, s, k =>
    match run body s some, negated with
    | some s', false => k { s with taken := s'.taken }
    | none, true => k s
    | _, _ => none
  | .behind negated body, s, k =>
    match (s.back? body.width.least).bind fun s' => run body s' some, negated with
    | some s', false => k { s with taken := s'.taken }
    | none, true => k s
    | _, _ => none
  | .again l index _, s, k =>
    match s.taken.lookup index with
    | some text => (s.past? l text).bind k
    | none => none
  | .choice index first second, s, k =>
    if (s.taken.lookup index).isSome then run first s k else run second s k

end Regex

namespace WrittenPattern

/-- What the groups of a match took. -/
abbrev Taken := List (Nat × List Char)

/-- What the groups took in the leftmost match. -/
def search (p : WrittenPattern) (text : List Char) : Option Taken :=
  (Spot.all 0 [] text).findSome? fun s => (p.regex.run s some).map Spot.taken

/-- The search pattern that is written. -/
def toPattern (p : WrittenPattern) : Pattern where
  names := p.names.map Prod.fst
  search text := do
    let taken ← p.search text.toList
    return fun name => do
      let index ← p.names.lookup name
      return String.ofList (← taken.lookup index)

end WrittenPattern

end GrammarManual
