import GrammarManual.Text.Integer
import GrammarManual.Text.Quoted

/-!
# Pattern/Basic: search patterns

A `Pattern` has groups with names and finds its leftmost match in a text. The match tells what each
group took last. How patterns are written, and what they match, is a matter of the language that
they are written in; what is wrong with a text that is no pattern is a `PatternError`.
-/

namespace GrammarManual

/-! ## 1. Patterns -/

/-- What the groups of a match took, by their names, as far as they take part in it. -/
abbrev Pattern.Match := String → Option String

/-- A search pattern. -/
structure Pattern where
  /-- The names of its groups. -/
  names : List String
  /-- The leftmost match in a text. -/
  search : String → Option Pattern.Match
  deriving Inhabited

/-- What the group of a name takes in the leftmost match, if it takes part in it. -/
def Pattern.searchGroup (p : Pattern) (name text : String) : Option String :=
  (p.search text).bind fun found => found name

/-! ## 2. Errors -/

/-- What is wrong with a pattern. -/
inductive PatternFault where
  | danglingEscape
  | badEscape (escape : String)
  | incompleteEscape (escape : String)
  | octalRange (escape : String)
  | openGroup
  | unbalanced
  | endInGroup
  | nothingToRepeat
  | repeatedTwice
  | repeatBounds
  | hugeRepeat
  | longNumeral (digits : Nat)
  | openClass
  | badRange (first last : String)
  /-- A brace is missing in front of the name of a character. -/
  | noBrace
  /-- No name; `what` tells of what it should be. -/
  | noName (what : String)
  | openName (close : Char)
  | badGroupName (name : String)
  | unknownName (name : String)
  | redefined (name : String) (index earlier : Nat)
  | groupZero
  | badReference (index : Nat)
  | openReference
  /-- A look back refers to a group of its own. -/
  | ownReference
  | thirdBranch
  | unknownExtension (text : String)
  | openComment
  | lateFlags
  | unknownFlag
  | openFlags
  | noFlag
  | noColon
  | localeFlag
  | severalAlphabets
  | globalOn
  | alphabetOff
  | globalOff
  | onAndOff
  /-- Flags at the start ask for two alphabets. -/
  | alphabets
  | openWidth
  | farBehind
  | template (operator : String)
  /-- What the reader does not know. -/
  | unsupported (text : String)
  /-- A fault in the words of another language of patterns. -/
  | other (words : String)
  deriving DecidableEq, Repr, Inhabited

/-- The wording of a fault. -/
def PatternFault.message : PatternFault → String
  | .danglingEscape => "bad escape (end of pattern)"
  | .badEscape e => "bad escape " ++ e
  | .incompleteEscape e => "incomplete escape " ++ e
  | .octalRange e => "octal escape value " ++ e ++ " outside of range 0-0o377"
  | .openGroup => "missing ), unterminated subpattern"
  | .unbalanced => "unbalanced parenthesis"
  | .endInGroup => "unexpected end of pattern"
  | .nothingToRepeat => "nothing to repeat"
  | .repeatedTwice => "multiple repeat"
  | .repeatBounds => "min repeat greater than max repeat"
  | .hugeRepeat => "the repetition number is too large"
  | .longNumeral n =>
    "Exceeds the limit (" ++ toString Text.mostDigits
      ++ " digits) for integer string conversion: value has " ++ toString n
      ++ " digits; use sys.set_int_max_str_digits() to increase the limit"
  | .openClass => "unterminated character set"
  | .badRange a b => "bad character range " ++ a ++ "-" ++ b
  | .noBrace => "missing \x7b"
  | .noName what => "missing " ++ what
  | .openName c => "missing " ++ String.singleton c ++ ", unterminated name"
  | .badGroupName n => "bad character in group name " ++ Text.quoted n
  | .unknownName n => "unknown group name " ++ Text.quoted n
  | .redefined n i j =>
    "redefinition of group name " ++ Text.quoted n ++ " as group " ++ toString i ++ "; was group "
      ++ toString j
  | .groupZero => "bad group number"
  | .badReference i => "invalid group reference " ++ toString i
  | .openReference => "cannot refer to an open group"
  | .ownReference => "cannot refer to group defined in the same lookbehind subpattern"
  | .thirdBranch => "conditional backref with more than two branches"
  | .unknownExtension t => "unknown extension " ++ t
  | .openComment => "missing ), unterminated comment"
  | .lateFlags => "global flags not at the start of the expression"
  | .unknownFlag => "unknown flag"
  | .openFlags => "missing -, : or )"
  | .noFlag => "missing flag"
  | .noColon => "missing :"
  | .localeFlag => "bad inline flags: cannot use 'L' flag with a str pattern"
  | .severalAlphabets => "bad inline flags: flags 'a', 'u' and 'L' are incompatible"
  | .globalOn => "bad inline flags: cannot turn on global flag"
  | .alphabetOff => "bad inline flags: cannot turn off flags 'a', 'u' and 'L'"
  | .globalOff => "bad inline flags: cannot turn off global flag"
  | .onAndOff => "bad inline flags: flag turned on and off"
  | .alphabets => "ASCII and UNICODE flags are incompatible"
  | .openWidth => "look-behind requires fixed-width pattern"
  | .farBehind => "looks too much behind"
  | .template operator => "internal: unsupported template operator " ++ operator
  | .unsupported t => "unsupported construct " ++ t
  | .other words => words

/-- How a fault is raised. -/
inductive PatternFault.Kind where
  | pattern
  /-- Like any wrong value. -/
  | value
  /-- Like a number that has no room. -/
  | overflow
  deriving DecidableEq, Repr, Inhabited

/-- The kind of a fault. -/
def PatternFault.kind : PatternFault → PatternFault.Kind
  | .longNumeral _ | .alphabets => .value
  | .hugeRepeat => .overflow
  | _ => .pattern

/-- The name of a kind. -/
def PatternFault.Kind.name : PatternFault.Kind → String
  | .pattern => "error"
  | .value => "ValueError"
  | .overflow => "OverflowError"

/-- A fault and the place it is reported at, if it has one. -/
structure PatternError where
  fault : PatternFault
  position : Option Nat := none
  deriving DecidableEq, Repr, Inhabited

/-- The wording of an error. A pattern of several lines adds line and column. -/
def PatternError.message (e : PatternError) (pattern : String) : String :=
  match e.position with
  | none => e.fault.message
  | some position =>
    let base := e.fault.message ++ " at position " ++ toString position
    if pattern.contains '\n' then
      let before := pattern.toList.take position
      let line := before.count '\n' + 1
      let column := (before.reverse.takeWhile (· ≠ '\n')).length + 1
      base ++ " (line " ++ toString line ++ ", column " ++ toString column ++ ")"
    else base

end GrammarManual
