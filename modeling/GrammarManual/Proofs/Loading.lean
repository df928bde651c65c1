import GrammarManual.Command.Run
import GrammarManual.Proofs.SourceLines

/-!
# Proofs/Loading: what becomes of grammar files that give no rule set

* `FileTree.unread?`, `FileTree.KeepsBack` -- what keeps the text of a file back: the operating
  system refuses it, or its bytes are no text;
* `FileTree.Blames` -- what an error says of the file that it names;
* `Grammar.ofFile_cases`, `Grammar.declareAll_cases` -- reading one file, and filling one table;
* `RuleSet.unread?` -- what keeps the text of a file back that loading comes to;
* `RuleSet.load_ends` -- loading gives a rule set or an error that is true of one of the files;
* **`load_reports_all_but_faults`** -- every such error is told the user, but for that of a file
  whose text is kept back; `undecodable_grammar_unforeseen` is a file of one byte that ends a command so.
-/

namespace GrammarManual

/-! ## 1. One file -/

/-- What keeps the text of a file back. Nothing does where no file is. -/
def FileTree.unread? (t : FileTree) (p : Path) : Option ReadError :=
  match t.isFile p with
  | .error fault => some (.refused fault)
  | .ok false => none
  | .ok true =>
    match t.read p with
    | .ok _ => none
    | .error e => some e

theorem FileTree.unread?_of_read {t : FileTree} {p : Path} {text : List Char}
    (hfile : t.isFile p = .ok true) (h : t.read p = .ok text) : t.unread? p = none := by
  unfold unread?
  rw [hfile, h]

theorem FileTree.lookup_of_isFile {t : FileTree} {p : Path} (h : t.isFile p = .ok true) :
    ∃ bytes, t.lookup p = some (.file bytes) := by
  unfold isFile look at h
  split at h
  · cases hlookup : t.lookup p with
    | none =>
      rw [hlookup] at h
      cases h
    | some e =>
      rw [hlookup] at h
      cases e with
      | file bytes => exact ⟨bytes, rfl⟩
      | folder => cases h
      | link target => cases h
  · split at h <;> cases h

/-- **What keeps the text of a file back**: the operating system refuses to say what it is, or to
    open it, or its bytes are no text. -/
inductive FileTree.KeepsBack (t : FileTree) (p : Path) : ReadError → Prop where
  | unknown {fault : SystemFault} (h : t.isFile p = .error fault) : KeepsBack t p (.refused fault)
  | unopened {fault : SystemFault} (hfile : t.isFile p = .ok true)
      (h : t.refusals.read p = some fault) : KeepsBack t p (.refused fault)
  | undecodable {bytes : List UInt8} {fault : Utf8Fault} (hfile : t.isFile p = .ok true)
      (hbytes : t.lookup p = some (.file bytes)) (h : Utf8.decode bytes = .error fault) :
    KeepsBack t p (.undecodable fault)

theorem FileTree.keepsBack_of_unread? {t : FileTree} {p : Path} {e : ReadError}
    (h : t.unread? p = some e) : t.KeepsBack p e := by
  unfold unread? at h
  split at h
  · rename_i fault hfile
    cases h
    exact .unknown hfile
  · cases h
  · rename_i hfile
    obtain ⟨bytes, hlookup⟩ := lookup_of_isFile hfile
    split at h
    · cases h
    · rename_i hread
      cases h
      unfold read at hread
      split at hread
      · rename_i fault hrefused
        cases hread
        exact .unopened hfile hrefused
      · rw [hlookup] at hread
        dsimp only at hread
        split at hread
        · cases hread
        · rename_i fault hdecode
          cases hread
          exact .undecodable hfile hlookup hdecode

/-- **What an error says of a file**: it is not there, its text is kept back, its text is no
    grammar, or it declares a name twice. -/
inductive FileTree.Blames (files : FileTree) (path : Path) : LoadError → Prop where
  | notFound (h : files.isFile path = .ok false) : Blames files path (.notFound path)
  | unread {e : ReadError} (h : files.unread? path = some e) : Blames files path (.unreadable e)
  | noGrammar {text : List Char} {e : G4Error} (hfile : files.isFile path = .ok true)
      (htext : files.read path = .ok text) (h : Grammar.read text = .error e) :
    Blames files path (.noGrammar path e)
  | declaredTwice {text : List Char} {g : Grammar} {before : List Rule} {r : Rule}
      (hfile : files.isFile path = .ok true) (htext : files.read path = .ok text)
      (hg : Grammar.read text = .ok g) (hrules : (before ++ [r]).Sublist g.rules)
      (h : r.name ∈ before.map Rule.name) :
    Blames files path (.declaredTwice path r.line r.name)

/-- Whether an error is one of those that the user is told: any but that of a file without text. -/
def LoadError.isTold : LoadError → Bool
  | .unreadable _ => false
  | _ => true

namespace Grammar

/-- **A grammar file that was read.** -/
structure ReadFrom (files : FileTree) (path : Path) (text : List Char) (f : FromFile) : Prop where
  there : files.isFile path = .ok true
  reads : files.read path = .ok text
  parses : Grammar.read text = .ok f.grammar

/-- **Reading one file** gives a grammar or an error that is true of the file. -/
theorem ofFile_cases (files : FileTree) (path : Path) :
    (∃ text f, ofFile files path = .ok f ∧ ReadFrom files path text f) ∨
    ∃ e, ofFile files path = .error e ∧ files.Blames path e := by
  cases hfile : files.isFile path with
  | error fault =>
    refine .inr ⟨.unreadable (.refused fault), ?_, .unread ?_⟩
    · unfold ofFile
      rw [hfile]
    · unfold FileTree.unread?
      rw [hfile]
  | ok there =>
    cases there with
    | false =>
      refine .inr ⟨.notFound path, ?_, .notFound hfile⟩
      unfold ofFile
      rw [hfile]
    | true =>
      cases hread : files.read path with
      | error e =>
        refine .inr ⟨.unreadable e, ?_, .unread ?_⟩
        · unfold ofFile
          rw [hfile, hread]
          rfl
        · unfold FileTree.unread?
          rw [hfile, hread]
      | ok text =>
        have hparsed : ofFile files path = ((Grammar.read text).mapError (.noGrammar path)).map
            fun g => ⟨g, (Text.splitLines text).map String.ofList⟩ := by
          unfold ofFile
          rw [hfile, hread]
          rfl
        rw [hparsed]
        cases hgrammar : Grammar.read text with
        | ok g => exact .inl ⟨text, _, rfl, hfile, hread, hgrammar⟩
        | error e => exact .inr ⟨_, rfl, .noGrammar hfile hread hgrammar⟩

/-- **Filling a table** succeeds or comes upon a name that was declared before. -/
theorem declareAll_cases (path : Path) (t : RuleTable) (rs : List Rule) :
    (∃ t', declareAll path t rs = .ok t') ∨
    ∃ before r after, rs = before ++ r :: after ∧
      declareAll path t rs = .error (.declaredTwice path r.line r.name) ∧
      r.name ∈ (t.rules ++ before).map Rule.name := by
  induction rs generalizing t with
  | nil => exact .inl ⟨t, rfl⟩
  | cons r rs ih =>
    rw [declareAll]
    by_cases h : t.declares r.name = false
    · rw [dif_pos h]
      rcases ih (t.add r h) with hok | ⟨before, q, after, rfl, herr, hname⟩
      · exact .inl hok
      · refine .inr ⟨r :: before, q, after, rfl, herr, ?_⟩
        have hadd : (t.add r h).rules = t.rules ++ [r] := rfl
        rwa [hadd, List.append_assoc] at hname
    · rw [dif_neg h]
      refine .inr ⟨[], r, rs, rfl, rfl, ?_⟩
      rw [List.append_nil]
      exact List.contains_iff_mem.mp (Bool.of_not_eq_false h)

/-- A table of some rules of a file is filled, or the file is to blame. -/
theorem ReadFrom.declareAll {files : FileTree} {path : Path} {text : List Char} {f : FromFile}
    (h : ReadFrom files path text f) {rs : List Rule} (hrs : rs.Sublist f.grammar.rules) :
    (∃ t, Grammar.declareAll path .empty rs = .ok t) ∨
      ∃ e, Grammar.declareAll path .empty rs = .error e ∧ e.isTold = true ∧
        files.Blames path e := by
  rcases declareAll_cases path .empty rs with hok | ⟨before, r, after, rfl, herr, hname⟩
  · exact .inl hok
  · have hfront : (before ++ [r]).Sublist (before ++ r :: after) :=
      (List.append_sublist_append_left before).mpr (List.singleton_sublist.mpr List.mem_cons_self)
    exact .inr ⟨_, herr, rfl,
      .declaredTwice h.there h.reads h.parses (hfront.trans hrs) hname⟩

end Grammar

/-! ## 2. Both files -/

/-- **How loading ends.** Beside a rule set there are errors that are true of one of the files;
    those of a file whose text is kept back come with what keeps it. -/
inductive LoadEnd (files : FileTree) (paths : List Path) :
    Option ReadError → Except LoadError RuleSet → Prop where
  | loaded (rules : RuleSet) : LoadEnd files paths none (.ok rules)
  | refused {path : Path} {e : LoadError} (hpath : path ∈ paths) (htold : e.isTold = true)
      (h : files.Blames path e) : LoadEnd files paths none (.error e)
  | unread {path : Path} {e : ReadError} (hpath : path ∈ paths) (h : files.KeepsBack path e) :
    LoadEnd files paths (some e) (.error (.unreadable e))

/-- An error of one file ends loading with what keeps the text of that file back, if anything
    does. -/
theorem FileTree.Blames.loadEnd {files : FileTree} {path : Path} {paths : List Path}
    {e : LoadError} (h : files.Blames path e) (hpath : path ∈ paths) :
    LoadEnd files paths (files.unread? path) (.error e) := by
  cases h with
  | notFound hfile =>
    have hnone : files.unread? path = none := by
      unfold FileTree.unread?
      rw [hfile]
    rw [hnone]
    exact .refused hpath rfl (.notFound hfile)
  | unread hunread =>
    rw [hunread]
    exact .unread hpath (FileTree.keepsBack_of_unread? hunread)
  | noGrammar hfile htext herr =>
    rw [FileTree.unread?_of_read hfile htext]
    exact .refused hpath rfl (.noGrammar hfile htext herr)
  | declaredTwice hfile htext hg hrules hname =>
    rw [FileTree.unread?_of_read hfile htext]
    exact .refused hpath rfl (.declaredTwice hfile htext hg hrules hname)

namespace Grammar

variable {files : FileTree} {path parserPath lexerPath : Path}

/-- Two tables that are filled one after the other. What is so of the errors of both is so of the
    error that ends it. -/
theorem tables_cases {a b : Except LoadError RuleTable} {P : LoadError → Prop}
    (ha : (∃ t, a = .ok t) ∨ ∃ e, a = .error e ∧ P e)
    (hb : (∃ t, b = .ok t) ∨ ∃ e, b = .error e ∧ P e) (m : RuleTable → RuleTable → RuleSet) :
    (∃ rules, (do return m (← a) (← b)) = Except.ok rules) ∨
      ∃ e, (do return m (← a) (← b)) = Except.error e ∧ P e := by
  rcases ha with ⟨first, rfl⟩ | ⟨e, rfl, he⟩
  · rcases hb with ⟨second, rfl⟩ | ⟨e, rfl, he⟩
    · exact .inl ⟨m first second, rfl⟩
    · exact .inr ⟨e, rfl, he⟩
  · exact .inr ⟨e, rfl, he⟩

theorem combined_cases {text : List Char} {f : FromFile} (h : ReadFrom files path text f) :
    (∃ rules, combined path f = .ok rules) ∨
      ∃ e, combined path f = .error e ∧ e.isTold = true ∧ files.Blames path e :=
  tables_cases (h.declareAll (List.filter_sublist (p := Rule.isLexer)))
    (h.declareAll (List.filter_sublist (p := fun r : Rule => !r.isLexer)))
    fun lexerRules parserRules => ⟨lexerRules, parserRules, f.lines, f.lines⟩

theorem paired_cases {text text' : List Char} {parser lexer : FromFile}
    (h : ReadFrom files parserPath text parser) (h' : ReadFrom files lexerPath text' lexer) :
    (∃ rules, paired parserPath lexerPath parser lexer = .ok rules) ∨
      ∃ e, paired parserPath lexerPath parser lexer = .error e ∧
        ∃ path ∈ [parserPath, lexerPath], e.isTold = true ∧ files.Blames path e := by
  have hlexer := h'.declareAll (List.Sublist.refl lexer.grammar.rules)
  have hparser := h.declareAll (List.Sublist.refl parser.grammar.rules)
  refine tables_cases (hlexer.imp_right ?_) (hparser.imp_right ?_)
    fun lexerRules parserRules => ⟨lexerRules, parserRules, lexer.lines, parser.lines⟩
  · rintro ⟨e, herr, hblames⟩
    exact ⟨e, herr, lexerPath, List.mem_cons_of_mem _ List.mem_cons_self, hblames⟩
  · rintro ⟨e, herr, hblames⟩
    exact ⟨e, herr, parserPath, List.mem_cons_self, hblames⟩

end Grammar

namespace RuleSet

open Grammar

/-- What keeps the text of a file back that loading comes to. A lexer grammar is looked at once the
    parser grammar has been read. -/
def unread? (files : FileTree) (parserPath : Path) (lexerPath : Option Path) : Option ReadError :=
  match ofFile files parserPath with
  | .ok _ => lexerPath.bind files.unread?
  | .error _ => files.unread? parserPath

/-- **Loading** gives a rule set or an error that is true of one of the files; and the error is that
    of a text that is kept back exactly if loading comes to such a file. -/
theorem load_ends (files : FileTree) (parserPath : Path) (lexerPath : Option Path) :
    LoadEnd files (parserPath :: lexerPath.toList) (unread? files parserPath lexerPath)
      (load files parserPath lexerPath).result := by
  unfold load unread?
  rcases ofFile_cases files parserPath with ⟨text, parser, hparser, hfrom⟩ | ⟨e, hparser, hblames⟩
  · rw [hparser]
    cases lexerPath with
    | none =>
      dsimp only [Option.bind_none]
      rcases combined_cases hfrom with ⟨rules, hrules⟩ | ⟨e, herr, htold, hblames⟩
      · rw [hrules]
        exact .loaded rules
      · rw [herr]
        exact .refused List.mem_cons_self htold hblames
    | some lexerPath =>
      dsimp only [Option.bind_some]
      rcases ofFile_cases files lexerPath with ⟨text', lexer, hlexer, hfrom'⟩ |
        ⟨e, hlexer, hblames⟩
      · rw [hlexer, FileTree.unread?_of_read hfrom'.there hfrom'.reads]
        dsimp only
        rcases paired_cases hfrom hfrom' with
          ⟨rules, hrules⟩ | ⟨e, herr, path, hpath, htold, hblames⟩
        · rw [hrules]
          exact .loaded rules
        · rw [herr]
          exact .refused hpath htold hblames
      · rw [hlexer]
        exact hblames.loadEnd (List.mem_cons_of_mem _ List.mem_cons_self)
  · rw [hparser]
    exact hblames.loadEnd List.mem_cons_self

end RuleSet

/-! ## 3. Commands -/

open Command in
/-- **Loading reports all but texts that are kept back.** It ends with a rule set or an error that
    is true of one of the files. A command tells the user of such an error and exits with code 1, but
    for that of a file that the operating system refuses or whose bytes are no text: this one is not
    foreseen. -/
theorem load_reports_all_but_faults [PatternLanguage] (i : Invocation) (files : FileTree) :
    LoadEnd files (i.parser :: i.lexer.toList) (RuleSet.unread? files i.parser i.lexer)
        (RuleSet.load files i.parser i.lexer).result ∧
      ∀ (format : Format) (settings : Settings) (e : LoadError), format? i.format = some format →
        Settings.discover files (some i.parser) none i.config = .ok settings →
        (RuleSet.load files i.parser i.lexer).result = .error e →
        i.run files =
          let log := Log.toText (Log.shown i.verbosity (RuleSet.load files i.parser i.lexer).log)
          match RuleSet.unread? files i.parser i.lexer with
          | none => { ending := .ok 1, errors := log ++ "Error: " ++ e.message ++ "\n", files }
          | some _ => { ending := .error (.load e), errors := log, files } := by
  have hends := RuleSet.load_ends files i.parser i.lexer
  refine ⟨hends, fun format settings e hformat hsettings he => ?_⟩
  have hdraw : i.draw files =
      { log := (RuleSet.load files i.parser i.lexer).log, result := .error (.ofLoad e) } := by
    unfold Invocation.draw
    rw [hformat, hsettings]
    dsimp only
    rw [he]
  unfold Invocation.run
  rw [hdraw]
  rw [he] at hends
  cases hunread : RuleSet.unread? files i.parser i.lexer with
  | none =>
    rw [hunread] at hends
    cases hends with
    | refused hpath htold h => cases h <;> first | rfl | cases htold
  | some kept =>
    rw [hunread] at hends
    cases hends with
    | unread hpath h => rfl

/-- A long name is refused where names are limited. -/
example : RuleSet.unread? (FileTree.limited {} 255 4095)
    { root := .slash, parts := [String.ofList (List.replicate 300 'g')] } none =
      some (.refused .nameTooLong) := by
  decide +kernel

/-- What a command says where there is no grammar. -/
theorem load_reports_all_but_faults_missing :
    RuleSet.unread? {} grammarPath none = none ∧
      (RuleSet.load {} grammarPath none).result = .error (.notFound grammarPath) ∧
      ({ parser := grammarPath, format := "text" } : Command.Invocation).run {} =
        { ending := .ok 1, errors := "Error: File not found: T.g4\n", files := {} } := by
  have hresult : (RuleSet.load {} grammarPath none).result = .error (.notFound grammarPath) := rfl
  have hunread : RuleSet.unread? {} grammarPath none = none := rfl
  have hrun := (load_reports_all_but_faults { parser := grammarPath, format := "text" } {}).2
    .text {} (.notFound grammarPath) rfl rfl hresult
  refine ⟨hunread, hresult, hrun.trans ?_⟩
  rw [hunread]
  rfl

/-- A grammar file of one byte that begins no character. -/
def garbledGrammar : FileTree where
  entries := [(["T.g4"], .file [0xff])]

/-- It gives neither a rule set nor an error that is told, and a command does not foresee it. -/
theorem undecodable_grammar_unforeseen :
    (¬∃ rules, (RuleSet.load garbledGrammar grammarPath none).result = .ok rules) ∧
      (¬∃ e, e.isTold = true ∧ (RuleSet.load garbledGrammar grammarPath none).result = .error e) ∧
      (({ parser := grammarPath, format := "text" } : Command.Invocation).run
          garbledGrammar).ending =
        .error (.load (.unreadable (.undecodable ⟨0xff, 0, 1, .start⟩))) := by
  have hresult : (RuleSet.load garbledGrammar grammarPath none).result =
      .error (.unreadable (.undecodable ⟨0xff, 0, 1, .start⟩)) := rfl
  rw [hresult]
  refine ⟨nofun, ?_, rfl⟩
  rintro ⟨e, htold, ⟨⟩⟩
  cases htold

end GrammarManual
