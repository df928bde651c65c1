import GrammarManual.Command.Run
import GrammarManual.Proofs.CommandLines
import GrammarManual.Proofs.ControlSequences
import GrammarManual.Proofs.FileWrites
import GrammarManual.Proofs.XmlManual

/-!
# Proofs/Delivery: how a manual is delivered

* `RuleSet.xml_plain` -- XML manuals hold no control sequence;
* `RunEnd`, `Invocation.run_ends` -- how a run ends, in one of four ways;
* **`delivered_whole_or_not_at_all`** -- a run that does not end well prints nothing and leaves the
  files alone; one with a file for its output changes this file only and puts into it what is
  printed without one, but for the control sequences, which are printed on terminals only;
* `sequence_kept_in_file` -- a manual of which a file has more than what is printed.
-/

namespace GrammarManual

/-! ## 1. XML manuals -/

theorem XmlReader.clean_declaration :
    IsClean "<?xml version='1.0' encoding='UTF-8'?>\n".toList := by
  unfold IsClean
  decide

theorem XmlReader.clean_document {root : XmlElement} (h : root.Sound) :
    IsClean root.document.toList := by
  unfold XmlElement.document
  rw [String.toList_ofList]
  exact clean_declaration.append (clean_print root h 0)

/-- XML has no place for an escape. -/
theorem XmlReader.IsClean.plain {cs : List Char} (h : IsClean cs) : ¬Text.HoldsSequence cs := by
  rintro ⟨before, _, after, rfl, params, letter, rfl, -⟩
  have hescape := h '\x1b' (List.mem_append_right before List.mem_cons_self)
  exact absurd hescape.1 (by decide)

/-- **XML manuals hold no control sequence.** -/
theorem RuleSet.xml_plain [PatternLanguage] {files docs : FileTree} {parserPath : Path}
    {lexerPath : Option Path} {rules : RuleSet} {settings : Settings} {document : String}
    (hload : (RuleSet.load files parserPath lexerPath).result = .ok rules)
    (h : (rules.manual .xml settings docs).result = .ok document) :
    ¬Text.HoldsSequence document.toList := by
  obtain ⟨-, -, c, -, -, -, -, -, -, -, -, rfl, hsound⟩ := RuleSet.xml_catalogue hload h
  exact (XmlReader.clean_document hsound).plain

namespace Command

/-- What was drawn comes from a rule set that was loaded. -/
theorem Invocation.draw_eq_ok [PatternLanguage] {i : Invocation} {files : FileTree}
    {document : String}
    (h : (i.draw files).result = .ok document) :
    ∃ format settings rules, format? i.format = some format ∧
      Settings.discover files (some i.parser) none i.config = .ok settings ∧
      (RuleSet.load files i.parser i.lexer).result = .ok rules ∧
      (rules.manual format (i.override settings) files).result = .ok document := by
  unfold draw at h
  split at h
  · cases h
  · rename_i format hformat
    split at h
    · cases h
    · rename_i settings hsettings
      dsimp only at h
      split at h
      · cases h
      · rename_i rules hload
        refine ⟨format, settings, rules, hformat, hsettings, hload, ?_⟩
        cases hmanual : (rules.manual format (i.override settings) files).result with
        | error e =>
          rw [hmanual] at h
          cases h
        | ok text =>
          rw [hmanual] at h
          cases h
          rfl

/-- A document in XML is printed as it is. -/
theorem Invocation.draw_plain [PatternLanguage] {i : Invocation} {files : FileTree}
    {document : String}
    (h : (i.draw files).result = .ok document) (hxml : i.format = "xml") :
    ¬Text.HoldsSequence document.toList := by
  obtain ⟨format, settings, rules, hformat, -, hload, hmanual⟩ := draw_eq_ok h
  rw [hxml] at hformat
  cases hformat
  exact RuleSet.xml_plain hload hmanual

/-! ## 2. Runs -/

/-- How a run ends: with nothing drawn, with a manual that is printed, with one that cannot be
    written, or with one that is. -/
inductive RunEnd [PatternLanguage] (i : Invocation) (files : FileTree) (report : Invocation.Report)
    : Prop where
  | stopped {stop : Stop} (hdrawn : (i.draw files).result = .error stop)
      (hend : report.ending ≠ .ok 0) (houtput : report.output = "") (hfiles : report.files = files)
  | printed {document : String} (hdrawn : (i.draw files).result = .ok document)
      (hnone : i.output = none) (hend : report.ending = .ok 0) (houtput : report.output = document)
      (hfiles : report.files = files)
  | unwritten {path : Path} (hpath : i.output = some path) (hend : report.ending ≠ .ok 0)
      (houtput : report.output = "") (hfiles : report.files = files)
  | written {document : String} {path : Path} {changed : FileTree}
      (hdrawn : (i.draw files).result = .ok document) (hpath : i.output = some path)
      (hwrite : files.write path document = .ok changed) (hend : report.ending = .ok 0)
      (hfiles : report.files = changed)

namespace Invocation

/-- **A run ends in one of four ways.** -/
theorem run_ends [PatternLanguage] (i : Invocation) (files : FileTree) : RunEnd i files
    (i.run files) := by
  unfold run
  dsimp only
  split
  · rename_i hdrawn
    exact .stopped hdrawn nofun rfl rfl
  · rename_i hdrawn
    exact .stopped hdrawn nofun rfl rfl
  · rename_i hdrawn hnone
    exact .printed hdrawn hnone rfl rfl rfl
  · rename_i hdrawn hpath
    split
    · exact .unwritten hpath nofun rfl rfl
    · rename_i hwrite
      exact .written hdrawn hpath hwrite rfl rfl

/-- What arrives on terminals is what was written. -/
theorem runTo_terminal [PatternLanguage] (i : Invocation) (files : FileTree) :
    i.runTo .terminal .terminal files = i.run files := by
  unfold runTo run Drawing.complaint Outlet.arriving
  dsimp only
  cases (i.draw files).result with
  | error stop =>
    cases stop with
    | told message => simp only [String.append_assoc]
    | failed f => simp only [String.append_empty]
  | ok document =>
    rw [String.append_empty]
    cases i.output with
    | none => rfl
    | some path =>
      dsimp only
      cases files.write path document <;> rfl

variable {i : Invocation} {files : FileTree} {document : String}

/-- **Without a file for its output** a run prints what was drawn. -/
theorem runTo_printed [PatternLanguage] (h : (i.draw files).result = .ok document)
    (out err : Outlet) :
    let printed := { i with output := none }.runTo out err files
    printed.ending = .ok 0 ∧ printed.output = out.arriving document ∧ printed.files = files := by
  have hdraw : ({ i with output := none }.draw files).result = .ok document := h
  cases { i with output := none }.run_ends files with
  | stopped hstopped => cases hdraw.symm.trans hstopped
  | printed hdrawn _ hend houtput hfiles =>
    cases hdraw.symm.trans hdrawn
    exact ⟨hend, congrArg out.arriving houtput, hfiles⟩
  | unwritten hpath => cases hpath
  | written _ hpath => cases hpath

end Invocation

theorem Outlet.arriving_nothing (out : Outlet) : out.arriving "" = "" := by
  cases out <;> rfl

/-- **What is printed arrives as it is** on a terminal, and elsewhere if it holds no control
    sequence. -/
theorem Outlet.arriving_eq_self_iff (out : Outlet) (text : String) :
    out.arriving text = text ↔ (out = .elsewhere → ¬Text.HoldsSequence text.toList) := by
  cases out with
  | terminal => exact ⟨fun _ => nofun, fun _ => rfl⟩
  | elsewhere =>
    exact (Text.withoutSequences_eq_self_iff text).trans ⟨fun h _ => h, fun h => h rfl⟩

/-! ## 3. Command lines -/

/-- **A manual is delivered whole or not at all.** A run that does not end well prints nothing and
    changes no file. One with a file for its output changes this file alone, and puts into it what
    the same command line without that option prints, but for control sequences in texts that do not
    go to a terminal; a document in XML has none. -/
theorem delivered_whole_or_not_at_all [PatternLanguage] {arguments : List String} {i : Invocation}
    (hrequest : Request.ofArguments arguments = .render i) (files : FileTree)
    (out err : Outlet) :
    let report := i.runTo out err files
    (report.ending ≠ .ok 0 → report.output = "" ∧ report.files = files) ∧
    ∀ path, i.output = some path → report.ending = .ok 0 →
      ∃ (plain : Invocation) (document : String),
        Request.ofArguments (withoutOutput arguments) = .render plain ∧
        let printed := plain.runTo out err files
        printed.ending = .ok 0 ∧ printed.files = files ∧
        printed.output = out.arriving document ∧
        files.Written report.files path document ∧
        (files.Written report.files path printed.output ↔
          (out = .elsewhere → ¬Text.HoldsSequence document.toList)) ∧
        (i.format = "xml" → ¬Text.HoldsSequence document.toList) := by
  dsimp only
  have hends := i.run_ends files
  constructor
  · intro hend
    cases hends with
    | stopped _ _ houtput hfiles =>
      exact ⟨(congrArg out.arriving houtput).trans out.arriving_nothing, hfiles⟩
    | unwritten _ _ houtput hfiles =>
      exact ⟨(congrArg out.arriving houtput).trans out.arriving_nothing, hfiles⟩
    | printed _ _ hok => exact absurd hok hend
    | written _ _ _ hok => exact absurd hok hend
  · intro path hpath hend
    cases hends with
    | stopped _ hstopped => exact absurd hend hstopped
    | unwritten _ hstopped => exact absurd hend hstopped
    | printed _ hnone =>
      rw [hpath] at hnone
      cases hnone
    | @written document _ changed hdrawn hother hwrite _ hfiles =>
      cases hpath.symm.trans hother
      obtain ⟨hok, hprinted, hsame⟩ := Invocation.runTo_printed hdrawn out err
      have hwritten : files.Written (i.runTo out err files).files path document := by
        show files.Written (i.run files).files path document
        rw [hfiles]
        exact FileTree.write_eq_ok hwrite
      refine ⟨_, document, Request.ofArguments_withoutOutput hrequest, hok, hsame, hprinted,
        hwritten, ?_, fun hxml => Invocation.draw_plain hdrawn hxml⟩
      rw [hprinted, ← out.arriving_eq_self_iff]
      constructor
      · exact fun h => h.text_eq hwritten
      · intro h
        rw [h]
        exact hwritten

theorem eq_ok_of_toOption {ε α : Type} {e : Except ε α} {a : α} (h : e.toOption = some a) :
    e = .ok a := by
  cases e with
  | error _ => cases h
  | ok _ =>
    cases h
    rfl

/-- A command line for a manual in a file of its own, with paths from the root on. -/
def placedArguments : List String :=
  ["render", "-p", "/g/T.g4", "-f", "text", "-o", "/g/../o/m.txt"]

/-- What it asks for. -/
def placedRun : Invocation where
  parser := Path.ofString "/g/T.g4"
  format := "text"
  output := some (Path.ofString "/g/../o/m.txt")

/-- A grammar outside of the working directory, and a folder that is a link. -/
def placedGrammar : FileTree where
  entries := [(["g", "T.g4"], .file "r: 'x' ;\n".toUTF8.data.toList), (["p"], .folder),
    (["o"], .link (Path.ofString "/p"))]
  here := ["home"]

/-- It gives the file that it prints without `-o`, and no file without a grammar. -/
theorem delivered_whole_or_not_at_all_plain :
    (∃ plain, Request.ofArguments (withoutOutput placedArguments) = .render plain ∧
      (plain.runTo .terminal .terminal placedGrammar).output = "r\n  : 'x'\n  ;\n" ∧
      placedGrammar.Written (placedRun.runTo .terminal .terminal placedGrammar).files
        (Path.ofString "/g/../o/m.txt") (plain.runTo .terminal .terminal placedGrammar).output) ∧
    (placedRun.runTo .terminal .terminal {}).output = "" ∧
      (placedRun.runTo .terminal .terminal {}).files = {} := by
  have hrequest : Request.ofArguments placedArguments = .render placedRun := by decide +kernel
  have hwrites : (placedRun.runTo .terminal .terminal placedGrammar).ending.toOption = some 0 := by
    decide +kernel
  have hstops : (placedRun.runTo .terminal .terminal {}).ending.toOption ≠ some 0 := by
    decide +kernel
  constructor
  · obtain ⟨plain, document, hplain, -, -, -, -, hsame, -⟩ :=
      (delivered_whole_or_not_at_all hrequest placedGrammar .terminal .terminal).2
        (Path.ofString "/g/../o/m.txt") rfl (eq_ok_of_toOption hwrites)
    have hrun : Request.ofArguments (withoutOutput placedArguments) =
        .render { placedRun with output := none } := by decide +kernel
    cases hrun.symm.trans hplain
    exact ⟨_, hplain, by decide +kernel, hsame.mpr nofun⟩
  · exact (delivered_whole_or_not_at_all hrequest {} .terminal .terminal).1
      fun h => hstops (congrArg Except.toOption h)

/-- A command line for a manual in a file of its own. -/
def fileArguments : List String := ["render", "-p", "T.g4", "-f", "text", "-o", "o.txt"]

/-- What it asks for. -/
def fileRun : Invocation where
  parser := grammarPath
  format := "text"
  output := some (Path.ofString "o.txt")

/-- A rule whose literal makes a terminal write boldly. -/
def boldGrammar : FileTree := .ofGrammar "r: '\x1b[1m' ;\n"

/-- Its manual loses the literal where it is printed to another program, and keeps it in a file. -/
theorem sequence_kept_in_file :
    Request.ofArguments fileArguments = .render fileRun ∧
      Request.ofArguments (withoutOutput fileArguments) =
        .render { fileRun with output := none } ∧
      (fileRun.runTo .elsewhere .elsewhere boldGrammar).ending = .ok 0 ∧
      ({ fileRun with output := none }.runTo .elsewhere .elsewhere boldGrammar).output =
        "r\n  : ''\n  ;\n" ∧
      (fileRun.runTo .elsewhere .elsewhere boldGrammar).files.lookup (Path.ofString "o.txt") =
        some (.file "r\n  : '\x1b[1m'\n  ;\n".toUTF8.data.toList) ∧
      ¬boldGrammar.Written (fileRun.runTo .elsewhere .elsewhere boldGrammar).files
        (Path.ofString "o.txt")
        ({ fileRun with output := none }.runTo .elsewhere .elsewhere boldGrammar).output := by
  have hlost : ({ fileRun with output := none }.runTo .elsewhere .elsewhere boldGrammar).output =
      "r\n  : ''\n  ;\n" := by decide +kernel
  have hkept : (fileRun.runTo .elsewhere .elsewhere boldGrammar).files.lookup
        (Path.ofString "o.txt") =
      some (.file "r\n  : '\x1b[1m'\n  ;\n".toUTF8.data.toList) := by decide +kernel
  have hends : (fileRun.runTo .elsewhere .elsewhere boldGrammar).ending.toOption = some 0 := by
    decide +kernel
  refine ⟨by decide +kernel, by decide +kernel, eq_ok_of_toOption hends, hlost, hkept, fun h => ?_⟩
  rw [hlost] at h
  have hbytes := hkept.symm.trans h.found
  exact absurd hbytes (by decide +kernel)

end Command

end GrammarManual
