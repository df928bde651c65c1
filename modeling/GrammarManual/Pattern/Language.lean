import GrammarManual.Pattern.Reader

/-!
# Pattern/Language: the language that patterns are written in

Everything that reads a pattern is relative to a `PatternLanguage`: it says which texts are patterns
and what they match. All that is asked of it is that whatever `WrittenPattern.read` accepts is a
pattern with the groups that are named there. It may know more: `WrittenPattern.read` takes no
character by its name (`\N{...}`).
-/

namespace GrammarManual

/-- A language of search patterns. -/
class PatternLanguage where
  read : String → Except PatternError Pattern
  /-- What is written as a pattern is one, and has the groups that it names. -/
  names_of_written : ∀ text written, WrittenPattern.read text = .ok written →
    ∃ pattern, read text = .ok pattern ∧ pattern.names = written.toPattern.names

/-- Reads a search pattern. -/
def Pattern.read [PatternLanguage] (text : String) : Except PatternError Pattern :=
  PatternLanguage.read text

/-- The language of what `WrittenPattern.read` accepts. -/
instance PatternLanguage.written : PatternLanguage where
  read text := (WrittenPattern.read text).map WrittenPattern.toPattern
  names_of_written text written h := ⟨written.toPattern, by rw [h]; rfl, rfl⟩

end GrammarManual
