import GrammarManual.Proofs.Loading

/-!
# Proofs/RepeatedNames: names that are declared more than once

Loading fills two tables: from a combined grammar by the first letters of the names, from a pair of
grammars file by file. No table takes a name twice.

* `Grammar.declarations` -- what goes into the table of a mode;
* `declareAll_ok_iff`, `declareAll_error` -- one table is filled unless a name comes twice, and the
  error is that of a later declaration of such a name;
* `load_result` -- loading files that were read fills the two tables;
* **`load_refuses_repeated_names`** -- what becomes of every declaration, and which repeated names
  are refused: all but those that a pair of files declares once in each;
  `shared_name_loaded` is such a pair.
-/

namespace GrammarManual

/-! ## 1. One table -/

namespace Grammar

theorem names_nodup_of_ok {path : Path} {rs : List Rule} {t : RuleTable}
    (h : declareAll path .empty rs = .ok t) : (rs.map Rule.name).Nodup := by
  have hrules : t.rules = rs := declareAll_rules h
  exact hrules ▸ t.distinct

/-- **A table that is not filled** has come upon a name for the second time. -/
theorem declareAll_error {path : Path} {rs : List Rule} {e : LoadError}
    (h : declareAll path .empty rs = .error e) :
    ∃ before r after, rs = before ++ r :: after ∧ r.name ∈ before.map Rule.name ∧
      e = .declaredTwice path r.line r.name := by
  rcases declareAll_cases path .empty rs with ⟨t, hok⟩ | ⟨before, r, after, hrs, herr, hname⟩
  · rw [hok] at h
    cases h
  · rw [herr] at h
    cases h
    exact ⟨before, r, after, hrs, hname, rfl⟩

/-- A table is filled if and only if no name comes twice. -/
theorem declareAll_ok_iff (path : Path) (rs : List Rule) :
    (∃ t, declareAll path .empty rs = .ok t) ↔ (rs.map Rule.name).Nodup := by
  constructor
  · rintro ⟨t, ht⟩
    exact names_nodup_of_ok ht
  · intro hnodup
    cases h : declareAll path .empty rs with
    | ok t => exact ⟨t, rfl⟩
    | error e =>
      obtain ⟨before, r, after, rfl, hname, -⟩ := declareAll_error h
      rw [List.map_append, List.map_cons] at hnodup
      exact absurd rfl ((List.nodup_append.mp hnodup).2.2 _ hname _ List.mem_cons_self)

/-! ## 2. Two tables -/

/-- What goes into the table of a mode: of a combined grammar the rules with names of that kind, of
    a pair the rules of the file. -/
def declarations (parser : Grammar) : Option Grammar → Mode → List Rule
  | none, .lexer => parser.rules.filter Rule.isLexer
  | none, .parser => parser.rules.filter fun r => !r.isLexer
  | some lexer, .lexer => lexer.rules
  | some _, .parser => parser.rules

/-- All declarations that are loaded, in their order. -/
def allDeclarations (parser : Grammar) : Option Grammar → List Rule
  | none => parser.rules
  | some lexer => lexer.rules ++ parser.rules

/-- Whether a name is declared in both parts. -/
def IsShared (parser : Grammar) (lexer : Option Grammar) (name : String) : Prop :=
  ∀ mode, name ∈ (declarations parser lexer mode).map Rule.name

theorem perm_declarations (parser : Grammar) (lexer : Option Grammar) :
    (declarations parser lexer .lexer ++ declarations parser lexer .parser).Perm
      (allDeclarations parser lexer) := by
  cases lexer with
  | none => exact List.filter_append_perm Rule.isLexer parser.rules
  | some lexer => exact .refl _

/-- In a combined grammar no name is of both kinds. -/
theorem not_isShared_none (parser : Grammar) (name : String) : ¬IsShared parser none name := by
  intro h
  obtain ⟨r, hr, hname⟩ := List.mem_map.mp (h .lexer)
  obtain ⟨q, hq, hname'⟩ := List.mem_map.mp (h .parser)
  have hupper := (List.mem_filter.mp hr).2
  have hlower := (List.mem_filter.mp hq).2
  unfold Rule.isLexer at hupper hlower
  rw [hname] at hupper
  rw [hname', hupper] at hlower
  cases hlower

/-- A name comes twice among all declarations if it does so in one part or is declared in both. -/
theorem nodup_allDeclarations (parser : Grammar) (lexer : Option Grammar) :
    ((allDeclarations parser lexer).map Rule.name).Nodup ↔
      (∀ mode, ((declarations parser lexer mode).map Rule.name).Nodup) ∧
        ∀ name, ¬IsShared parser lexer name := by
  rw [← ((perm_declarations parser lexer).map Rule.name).nodup_iff, List.map_append,
    List.nodup_append]
  constructor
  · rintro ⟨hlexer, hparser, hapart⟩
    refine ⟨fun mode => ?_, fun name hshared => hapart _ (hshared .lexer) _ (hshared .parser) rfl⟩
    cases mode with
    | lexer => exact hlexer
    | parser => exact hparser
  · rintro ⟨hparts, hshared⟩
    refine ⟨hparts .lexer, hparts .parser, fun x hx y hy => ?_⟩
    rintro rfl
    refine hshared x fun mode => ?_
    cases mode with
    | lexer => exact hx
    | parser => exact hy

theorem finishLoad_result (log : List Message) (parserPath : Path) (lexerPath : Option Path)
    (result : Except LoadError RuleSet) :
    (finishLoad log parserPath lexerPath result).result = result := by
  cases result <;> rfl

end Grammar

open Grammar

section Load

variable {files : FileTree} {parserPath : Path} {lexerPath : Option Path} {parser : FromFile}
  {lexer : Option FromFile}

/-- **Loading files that were read** fills the table of the lexer rules and then that of the parser
    rules. -/
theorem load_result (hparser : ofFile files parserPath = .ok parser)
    (hlexer : lexerPath.mapM (ofFile files) = .ok lexer) :
    (RuleSet.load files parserPath lexerPath).result =
      (declareAll (sourcePath parserPath lexerPath .lexer) .empty
        (declarations parser.grammar (lexer.map FromFile.grammar) .lexer)).bind fun lexerRules =>
      (declareAll (sourcePath parserPath lexerPath .parser) .empty
        (declarations parser.grammar (lexer.map FromFile.grammar) .parser)).bind fun parserRules =>
      .ok { lexerRules, parserRules, lexerLines := (lexer.getD parser).lines,
            parserLines := parser.lines } := by
  unfold RuleSet.load
  rw [hparser]
  cases lexerPath with
  | none =>
    cases hlexer
    dsimp only
    rw [finishLoad_result]
    rfl
  | some path =>
    cases hfile : ofFile files path with
    | error e =>
      rw [Option.mapM_some, hfile] at hlexer
      cases hlexer
    | ok file =>
      rw [Option.mapM_some, hfile] at hlexer
      cases hlexer
      dsimp only
      rw [hfile]
      dsimp only
      rw [finishLoad_result]
      rfl

/-- How loading files that were read ends: with both tables filled, or with the error of one. -/
theorem load_declares (hparser : ofFile files parserPath = .ok parser)
    (hlexer : lexerPath.mapM (ofFile files) = .ok lexer) :
    (∃ g, (RuleSet.load files parserPath lexerPath).result = .ok g ∧
      ∀ mode, (g.table mode).rules =
        declarations parser.grammar (lexer.map FromFile.grammar) mode) ∨
    ∃ e mode, (RuleSet.load files parserPath lexerPath).result = .error e ∧
      declareAll (sourcePath parserPath lexerPath mode) .empty
        (declarations parser.grammar (lexer.map FromFile.grammar) mode) = .error e := by
  rw [load_result hparser hlexer]
  cases hl : declareAll (sourcePath parserPath lexerPath .lexer) .empty
      (declarations parser.grammar (lexer.map FromFile.grammar) .lexer) with
  | error e => exact .inr ⟨e, .lexer, rfl, hl⟩
  | ok lexerRules =>
    cases hp : declareAll (sourcePath parserPath lexerPath .parser) .empty
        (declarations parser.grammar (lexer.map FromFile.grammar) .parser) with
    | error e => exact .inr ⟨e, .parser, rfl, hp⟩
    | ok parserRules =>
      refine .inl ⟨_, rfl, fun mode => ?_⟩
      cases mode with
      | lexer => exact declareAll_rules hl
      | parser => exact declareAll_rules hp

/-- **Which repeated names are refused.** Files that were read are loaded unless a name comes twice
    among the declarations of one table; the error names such a rule and the line of a later
    declaration of it. Otherwise every declaration stands in the table of its kind, in order. So a
    name that is declared more than once is refused, unless it is declared once in each of two
    files: loading then goes on, and only then do two rules of the rule set share a name. -/
theorem load_refuses_repeated_names (hparser : ofFile files parserPath = .ok parser)
    (hlexer : lexerPath.mapM (ofFile files) = .ok lexer) :
    let declared := declarations parser.grammar (lexer.map FromFile.grammar)
    let all := allDeclarations parser.grammar (lexer.map FromFile.grammar)
    let isShared := IsShared parser.grammar (lexer.map FromFile.grammar)
    let result := (RuleSet.load files parserPath lexerPath).result
    ((∃ e, result = .error e) ↔ ∃ mode, ¬((declared mode).map Rule.name).Nodup) ∧
      (¬(all.map Rule.name).Nodup ↔ (∃ e, result = .error e) ∨ ∃ name, isShared name) ∧
      (lexerPath = none → ∀ name, ¬isShared name) ∧
      (∀ e, result = .error e → ∃ mode before r after, declared mode = before ++ r :: after ∧
        r.name ∈ before.map Rule.name ∧
        e = .declaredTwice (sourcePath parserPath lexerPath mode) r.line r.name) ∧
      ∀ g, result = .ok g → (∀ mode, (g.table mode).rules = declared mode) ∧
        (declared .lexer ++ declared .parser).Perm all ∧
        (g.names.Nodup ↔ ∀ name, ¬isShared name) := by
  intro declared all isShared result
  have herror : (∃ e, result = .error e) ↔ ∃ mode, ¬((declared mode).map Rule.name).Nodup := by
    constructor
    · rintro ⟨e, he⟩
      rcases load_declares hparser hlexer with ⟨g, hg, -⟩ | ⟨e', mode, -, hmode⟩
      · cases he.symm.trans hg
      · refine ⟨mode, fun hnodup => ?_⟩
        obtain ⟨t, ht⟩ := (declareAll_ok_iff _ _).mpr hnodup
        cases hmode.symm.trans ht
    · rintro ⟨mode, hmode⟩
      rcases load_declares hparser hlexer with ⟨g, -, hg⟩ | ⟨e, -, he, -⟩
      · have hdistinct := (g.table mode).distinct
        rw [hg mode] at hdistinct
        exact absurd hdistinct hmode
      · exact ⟨e, he⟩
  have hall := nodup_allDeclarations parser.grammar (lexer.map FromFile.grammar)
  refine ⟨herror, ?_, ?_, ?_, ?_⟩
  · rw [herror, hall, not_and_or, not_forall, not_forall]
    simp only [not_not]
    rfl
  · rintro rfl
    cases hlexer
    exact not_isShared_none parser.grammar
  · intro e he
    rcases load_declares hparser hlexer with ⟨g, hg, -⟩ | ⟨e', mode, he', hmode⟩
    · cases he.symm.trans hg
    · cases he.symm.trans he'
      obtain ⟨before, r, after, hbefore, hname, rfl⟩ := declareAll_error hmode
      exact ⟨mode, before, r, after, hbefore, hname, rfl⟩
  · intro g hg
    have htables : ∀ mode, (g.table mode).rules = declared mode := by
      rcases load_declares hparser hlexer with ⟨g', hg', htables⟩ | ⟨e, -, he, -⟩
      · cases hg.symm.trans hg'
        exact htables
      · cases hg.symm.trans he
    have hperm := perm_declarations parser.grammar (lexer.map FromFile.grammar)
    have hnames : g.names = (declared .lexer ++ declared .parser).map Rule.name := by
      rw [List.map_append, ← htables .lexer, ← htables .parser]
      rfl
    refine ⟨htables, hperm, ?_⟩
    rw [hnames, (hperm.map Rule.name).nodup_iff, hall]
    refine and_iff_right fun mode => ?_
    have hdistinct := (g.table mode).distinct
    rwa [htables mode] at hdistinct

end Load

/-! ## 3. Two inputs -/

/-- A grammar that declares `r` on two lines. -/
def repeatedGrammar : FileTree := .ofGrammar "grammar T;\nr: A ;\nr: B ;\n"

theorem load_refuses_repeated_names_twice :
    ∃ parser, ofFile repeatedGrammar grammarPath = .ok parser ∧
      (none : Option Path).mapM (ofFile repeatedGrammar) = .ok none ∧
      parser.grammar.rules.map Rule.name = ["r", "r"] ∧
      ∃ e, (RuleSet.load repeatedGrammar grammarPath none).result = .error e := by
  have hread : ((ofFile repeatedGrammar grammarPath).toOption.map fun f =>
      f.grammar.rules.map Rule.name) = some ["r", "r"] := by decide +kernel
  cases hparser : ofFile repeatedGrammar grammarPath with
  | error e =>
    rw [hparser] at hread
    cases hread
  | ok parser =>
    rw [hparser] at hread
    have hnames : parser.grammar.rules.map Rule.name = ["r", "r"] := Option.some.inj hread
    have hlexer : (none : Option Path).mapM (ofFile repeatedGrammar) = .ok none := rfl
    obtain ⟨-, hrepeated, hcombined, -⟩ := load_refuses_repeated_names hparser hlexer
    refine ⟨parser, rfl, hlexer, hnames, ?_⟩
    refine (hrepeated.mp ?_).resolve_right fun ⟨name, hshared⟩ => hcombined rfl name hshared
    show ¬(parser.grammar.rules.map Rule.name).Nodup
    rw [hnames]
    decide

/-- A pair of grammars that both declare `A`. -/
def sharedGrammars : FileTree where
  entries := [("P.g4", "parser grammar P;\nA: 'a' ;\n"), ("L.g4", "lexer grammar L;\nA: 'a' ;\n")].map
    fun (name, text) => ([name], .file (text.toList.map fun c => UInt8.ofNat c.toNat))

/-- **A name that two files share is no error**: both grammars are read, each declares `A`, and
    loading gives a rule set with two rules of that name. -/
theorem shared_name_loaded :
    ∃ parser lexer g, ofFile sharedGrammars (.ofString "P.g4") = .ok parser ∧
      ofFile sharedGrammars (.ofString "L.g4") = .ok lexer ∧
      ¬((allDeclarations parser.grammar (some lexer.grammar)).map Rule.name).Nodup ∧
      (RuleSet.load sharedGrammars (.ofString "P.g4") (some (.ofString "L.g4"))).result = .ok g ∧
      g.names = ["A", "A"] := by
  have hrun : ((ofFile sharedGrammars (.ofString "P.g4")).toOption.bind fun parser =>
      (ofFile sharedGrammars (.ofString "L.g4")).toOption.bind fun lexer =>
      (RuleSet.load sharedGrammars (.ofString "P.g4") (some (.ofString "L.g4"))).result.toOption.map
        fun g => ((allDeclarations parser.grammar (some lexer.grammar)).map Rule.name, g.names)) =
      some (["A", "A"], ["A", "A"]) := by decide +kernel
  cases hparser : ofFile sharedGrammars (.ofString "P.g4") with
  | error e =>
    rw [hparser] at hrun
    cases hrun
  | ok parser =>
    cases hlexer : ofFile sharedGrammars (.ofString "L.g4") with
    | error e =>
      rw [hparser, hlexer] at hrun
      cases hrun
    | ok lexer =>
      cases hload : (RuleSet.load sharedGrammars (.ofString "P.g4")
          (some (.ofString "L.g4"))).result with
      | error e =>
        rw [hparser, hlexer, hload] at hrun
        cases hrun
      | ok g =>
        rw [hparser, hlexer, hload] at hrun
        obtain ⟨hall, hnames⟩ := Prod.mk.inj (Option.some.inj hrun)
        refine ⟨parser, lexer, g, rfl, rfl, ?_, rfl, hnames⟩
        rw [hall]
        decide

end GrammarManual
