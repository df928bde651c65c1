import GrammarManual.Blurb.Markdown.Tree
import GrammarManual.Text.Entity
import GrammarManual.Text.Punctuation
import GrammarManual.Text.Utf8

/-!
# Blurb/Markdown/Link: labels, targets and titles

A link is `[label](target "title")`, or `[label][key]` with the line `[key]: target "title"`
elsewhere. Titles are read and dropped. `address` is the form of a target that is shown: escapes
and character references resolved, everything unusual in an address written as octets.
-/

namespace GrammarManual.Markdown.Link

/-! ## 1. Addresses -/

/-- Takes the backslash from before punctuation. -/
def unescape : List Char → List Char
  | '\\' :: c :: rest =>
    if isAsciiPunctuation c then c :: unescape rest else '\\' :: unescape (c :: rest)
  | c :: rest => c :: unescape rest
  | [] => []

/-- What stands in an address as it is. -/
def isPlain (c : Char) : Bool := c.isAlphanum || "_.-~:/?#@!$&()*+,;=%".toList.contains c

/-- A digit of an octet. -/
def hexDigit (n : Nat) : Char := if n < 10 then Char.ofNat (0x30 + n) else Char.ofNat (0x37 + n)

/-- An octet in an address. -/
def octet (b : UInt8) : List Char := ['%', hexDigit (b.toNat / 16), hexDigit (b.toNat % 16)]

/-- An address without character references and unusual characters. -/
def encode (url : List Char) : List Char :=
  (Entity.resolve url).flatMap fun c =>
    if isPlain c then [c] else (Utf8.encodeChar c).flatMap octet

/-- The address a target stands for. -/
def address (target : List Char) : List Char := encode (unescape target)

/-! ## 2. Labels -/

/-- The label up to its closing bracket and what follows the bracket: at most `room` characters,
    an escaped one counting once, and no bracket inside that is not escaped. -/
def labelWithin : Nat → List Char → Option (List Char × List Char)
  | _, [] => none
  | 0, c :: rest => if c = ']' then some ([], rest) else none
  | room + 1, c :: rest =>
    if c = ']' then some ([], rest)
    else if c = '[' then none
    else if c = '\\' then
      match rest with
      | d :: rest' =>
        if d = '\n' then none
        else (labelWithin room rest').map fun (l, after) => (c :: d :: l, after)
      | [] => none
    else (labelWithin room rest).map fun (l, after) => (c :: l, after)

/-- The label behind an opening bracket. -/
def label? (s : List Char) : Option (List Char × List Char) := labelWithin 500 s

/-- The text up to the bracket that balances `depth` open ones, and what follows the bracket.
    `escapes` counts the backslashes just before; brackets behind an odd number of them do not
    count, and one behind an even number opens. -/
def balanced? (depth escapes : Nat) : List Char → Option (List Char × List Char)
  | [] => none
  | c :: rest =>
    let further (r : Option (List Char × List Char)) := r.map fun (l, after) => (c :: l, after)
    if c = '\\' then further (balanced? depth (escapes + 1) rest)
    else if (c = '[' || c = ']') && escapes % 2 = 0 then
      if c = '[' || escapes ≠ 0 then further (balanced? (depth + 1) 0 rest)
      else if depth ≤ 1 then some ([], rest)
      else further (balanced? (depth - 1) 0 rest)
    else further (balanced? depth 0 rest)

/-! ## 3. Targets -/

/-- Skips blanks and tabs, and among them at most one newline. -/
def skipGap (s : List Char) : List Char :=
  let gap (s : List Char) := s.dropWhile fun c => c = ' ' || c = '\t'
  match gap s with
  | '\n' :: rest => gap rest
  | rest => rest

/-- The target in angle brackets behind the opening one. -/
def bracketed? (s : List Char) : Option (List Char × List Char) :=
  let inside := s.takeWhile fun c =>
    !(c = '<' || c = '>' || c = '\n' || c = '\\' || c = '\x00')
  match s.drop inside.length with
  | '>' :: rest => some (inside, rest)
  | _ => none

/-- Whether the target ends here: at a closing bracket, even behind escaped backslashes. -/
def endsTarget : List Char → Bool
  | '\\' :: '\\' :: rest => endsTarget rest
  | ')' :: _ => true
  | _ => false

/-- What follows the escaped backslashes at the front. -/
def dropEscapes : List Char → List Char
  | '\\' :: '\\' :: rest => dropEscapes rest
  | rest => rest

/-- A target in a line of text, up to white space or a closing bracket. `escaped` says that a
    backslash stands just before. -/
def bareTarget? (escaped : Bool) : List Char → Option (List Char × List Char)
  | [] => none
  | c :: rest =>
    if c = ' ' || c = '\t' || c = '\n' then some ([], c :: rest)
    else if !escaped && endsTarget (c :: rest) then some ([], dropEscapes (c :: rest))
    else (bareTarget? (c = '\\') rest).map fun (t, after) => (c :: t, after)

/-- The target behind the bracket that opens it. -/
def target? (s : List Char) : Option (List Char × List Char) :=
  match skipGap s with
  | '<' :: rest => bracketed? rest
  | rest => bareTarget? false rest

/-- The target in the definition of a link. -/
def definedTarget? (s : List Char) : Option (List Char × List Char) :=
  match skipGap s with
  | '<' :: rest => bracketed? rest
  | rest =>
    let target := rest.takeWhile (!isBlank ·)
    if target.isEmpty then none else some (target, rest.drop target.length)

/-! ## 4. Titles -/

/-- What follows the quotation mark that closes a title: the first one that is not escaped, or else
    `spare`, what follows the last escaped one. -/
def closeTitle (mark : Char) (spare : Option (List Char)) : List Char → Option (List Char)
  | [] => spare
  | '\\' :: d :: rest =>
    if d = mark then closeTitle mark (some rest) rest
    else if isAsciiPunctuation d then closeTitle mark spare rest
    else closeTitle mark spare (d :: rest)
  | c :: rest =>
    if c = mark then some rest
    else if c = '\x00' then spare
    else closeTitle mark spare rest

/-- What follows a title, which white space sets off from the target. -/
def afterTitle? (s : List Char) : Option (List Char) :=
  let rest := s.dropWhile fun c => c = ' ' || c = '\t' || c = '\n'
  if rest.length = s.length then none
  else
    match rest with
    | c :: inside => if c = '"' || c = '\'' then closeTitle c none inside else none
    | [] => none

/-- The address behind an opening bracket, and what follows the closing one. -/
def destination? (s : List Char) : Option (List Char × List Char) :=
  match target? s with
  | none => none
  | some (target, rest) =>
    match ((afterTitle? rest).getD rest).dropWhile isBlank with
    | ')' :: after => some (address target, after)
    | _ => none

/-! ## 5. Definitions -/

/-- What follows the rest of a line, if that is blank. -/
def endLine? (s : List Char) : Option (List Char) :=
  match s.dropWhile fun c => c = ' ' || c = '\t' with
  | '\n' :: rest => some rest
  | _ => none

/-- What stands before the first blank line below. -/
def untilEmptyLine : List Char → List Char
  | [] => []
  | '\n' :: rest =>
    match rest.dropWhile fun c => c = ' ' || c = '\t' || c = '\x0b' || c = '\x0c' with
    | '\n' :: _ => ['\n']
    | _ => '\n' :: untilEmptyLine rest
  | c :: rest => c :: untilEmptyLine rest

/-- The title below or beside a target, with the end of its line. It may not go past a blank
    line. -/
def afterDefinedTitle? (s : List Char) : Option (List Char) :=
  let near := untilEmptyLine s
  match afterTitle? near with
  | some rest => endLine? (s.drop (near.length - rest.length))
  | none => none

/-- The definition of a link behind its opening bracket: key, address, and what follows its last
    line. A title that is followed by more text is not part of it. -/
def definition? (s : List Char) : Option (List Char × List Char × List Char) :=
  match label? s with
  | some (label, ':' :: rest) =>
    let key := Definitions.key label
    if key.isEmpty then none
    else
      match definedTarget? rest with
      | none => none
      | some (target, after) =>
        ((afterDefinedTitle? after).orElse fun _ => endLine? after).map
          fun rest' => (key, address target, rest')
  | _ => none

end GrammarManual.Markdown.Link
