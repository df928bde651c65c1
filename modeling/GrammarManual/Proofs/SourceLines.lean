import GrammarManual.Document.Section
import GrammarManual.Grammar.Load
import GrammarManual.Pattern.Language
import GrammarManual.Proofs.Consumed
import GrammarManual.Settings.Basic

/-!
# Proofs/SourceLines: the line of a section marker

A rule knows its line by the newlines before its name; section markers are looked up in the list of
printed lines. The two count alike as long as no other line boundary is met.

* `Text.physicalLine` -- a line between newlines, by its index;
* `getElem?_splitLines` -- printed lines are physical lines up to the first that holds another
  boundary;
* **`section_on_physical_line`** -- the marker of a rule is looked for on the physical line that the
  settings say, if that line and those above it hold no other boundary;
* `section_lost_at_formFeed` -- a form feed in a comment moves the lines apart.
-/

namespace GrammarManual

namespace Text

/-! ## 1. Physical and printed lines -/

/-- The physical line of an index, counted from 0. -/
def physicalLine (text : List Char) (index : Int) : Option String :=
  if index < 0 then none else (splitNewlines text)[index.toNat]?.map String.ofList

/-- A line that no boundary breaks. -/
def IsUnbroken (line : List Char) : Prop := ∀ c ∈ line, isLineBoundary c = false

/-- A character that is no newline goes to the first line of what follows. -/
theorem splitNewlines_cons {c : Char} (hc : c ≠ '\n') (rest : List Char) :
    ∃ piece pieces, splitNewlines rest = piece :: pieces ∧
      splitNewlines (c :: rest) = (c :: piece) :: pieces := by
  have hne : splitNewlines rest ≠ [] := by
    fun_cases splitNewlines rest <;> simp [*]
  obtain ⟨piece, pieces, hrest⟩ := List.exists_cons_of_ne_nil hne
  refine ⟨piece, pieces, hrest, ?_⟩
  rw [splitNewlines, hrest]
  intro hn
  exact hc hn

theorem splitNewlines_append (a b : List Char) :
    splitNewlines (a ++ '\n' :: b) = splitNewlines a ++ splitNewlines b := by
  induction a with
  | nil => rfl
  | cons c a ih =>
    by_cases hc : c = '\n'
    · subst hc
      show [] :: splitNewlines (a ++ '\n' :: b) = [] :: splitNewlines a ++ _
      rw [ih]
      rfl
    · obtain ⟨piece, pieces, ha, hca⟩ := splitNewlines_cons hc a
      obtain ⟨piece', pieces', hab, hcab⟩ := splitNewlines_cons hc (a ++ '\n' :: b)
      rw [ih, ha] at hab
      cases hab
      rw [List.cons_append, hcab, hca]
      rfl

/-- A text without newline is one line. -/
theorem splitNewlines_oneLine {text : List Char} (h : '\n' ∉ text) :
    splitNewlines text = [text] := by
  induction text with
  | nil => rfl
  | cons c text ih =>
    have hc : c ≠ '\n' := fun e => h (e ▸ List.mem_cons_self)
    obtain ⟨piece, pieces, htext, hcons⟩ := splitNewlines_cons hc text
    rw [ih fun hm => h (List.mem_cons_of_mem c hm)] at htext
    cases htext
    exact hcons

/-- A character that breaks no line goes to the first printed line of what follows. -/
theorem splitLines_cons {c : Char} (hc : isLineBoundary c = false) (rest : List Char) :
    splitLines (c :: rest) =
      match splitLines rest with
      | [] => [[c]]
      | line :: more => (c :: line) :: more := by
  rw [splitLines]
  · have hno : ¬ isLineBoundary c = true := by
      rw [hc]
      exact Bool.false_ne_true
    refine (if_neg hno).trans ?_
    cases splitLines rest <;> rfl
  · intro more hreturn
    rw [hreturn] at hc
    exact absurd hc (by decide)

/-- **Printed lines are physical lines** up to the first that holds another boundary, an empty line
    at the very end apart. -/
theorem getElem?_splitLines {s : List Char} {k : Nat}
    (hunbroken : ∀ line ∈ (splitNewlines s).take (k + 1), IsUnbroken line)
    (hthere : k < newlines s ∨ ∃ line, (splitNewlines s)[k]? = some line ∧ line ≠ []) :
    (splitLines s)[k]? = (splitNewlines s)[k]? := by
  induction s generalizing k with
  | nil =>
    rcases hthere with h | ⟨line, hline, hne⟩
    · exact absurd h (Nat.not_lt_zero k)
    · cases k with
      | zero =>
        cases hline
        exact absurd rfl hne
      | succ k => rfl
  | cons c rest ih =>
    by_cases hc : c = '\n'
    · subst hc
      cases k with
      | zero => rfl
      | succ k =>
        have htail : ∀ line ∈ (splitNewlines rest).take (k + 1), IsUnbroken line := fun line hl =>
          hunbroken line (List.mem_cons_of_mem [] hl)
        refine ih htail (hthere.imp_left fun hk => ?_)
        rw [newlines, List.count_cons_self] at hk
        exact Nat.lt_of_succ_lt_succ hk
    · obtain ⟨piece, pieces, hrest, hcons⟩ := splitNewlines_cons hc rest
      rw [hcons] at hunbroken hthere ⊢
      have hfirst : IsUnbroken (c :: piece) := hunbroken _ List.mem_cons_self
      have hpiece : IsUnbroken piece := fun d hd => hfirst d (List.mem_cons_of_mem c hd)
      have hnewlines : newlines (c :: rest) = newlines rest := List.count_cons_of_ne hc
      rw [splitLines_cons (hfirst c List.mem_cons_self)]
      cases k with
      | zero =>
        by_cases hempty : rest = []
        · subst hempty
          cases hrest
          rfl
        · have hline : (splitLines rest)[0]? = some piece := by
            have hih := @ih 0
            rw [hrest] at hih
            refine hih (fun line hl => ?_) ?_
            · cases List.mem_singleton.mp hl
              exact hpiece
            · obtain ⟨d, more, rfl⟩ := List.exists_cons_of_ne_nil hempty
              by_cases hd : d = '\n'
              · subst hd
                refine .inl ?_
                rw [newlines, List.count_cons_self]
                exact Nat.succ_pos _
              · obtain ⟨piece', pieces', -, hcons'⟩ := splitNewlines_cons hd more
                rw [hrest] at hcons'
                cases hcons'
                exact .inr ⟨_, rfl, List.cons_ne_nil _ _⟩
          cases hsplit : splitLines rest with
          | nil =>
            rw [hsplit] at hline
            cases hline
          | cons line more =>
            rw [hsplit] at hline
            cases hline
            rfl
      | succ k =>
        have hih : (splitLines rest)[k + 1]? = pieces[k]? := by
          have hih := @ih (k + 1)
          rw [hrest] at hih
          refine hih (fun line hl => ?_) ?_
          · rcases List.mem_cons.mp hl with rfl | hl
            · exact hpiece
            · exact hunbroken line (List.mem_cons_of_mem _ hl)
          · rw [← hnewlines]
            exact hthere
        rw [List.getElem?_cons_succ, ← hih]
        cases splitLines rest <;> rfl

/-- The physical line that holds a character is there, and so are those above it. -/
theorem line_there {c : Char} (hc : c ≠ '\n') (before rest : List Char) {k : Nat}
    (hk : k ≤ newlines before) :
    k < newlines (before ++ c :: rest) ∨
      ∃ line, (splitNewlines (before ++ c :: rest))[k]? = some line ∧ line ≠ [] := by
  rcases Nat.lt_or_eq_of_le hk with hlt | rfl
  · refine .inl (Nat.lt_of_lt_of_le hlt ?_)
    rw [newlines, newlines, List.count_append]
    exact Nat.le_add_right _ _
  · refine .inr ?_
    induction before with
    | nil =>
      obtain ⟨piece, pieces, -, hcons⟩ := splitNewlines_cons hc rest
      refine ⟨c :: piece, ?_, List.cons_ne_nil _ _⟩
      rw [List.nil_append, hcons]
      rfl
    | cons b before ih =>
      obtain ⟨line, hline, hne⟩ := ih (Nat.le_refl _)
      by_cases hb : b = '\n'
      · subst hb
        refine ⟨line, ?_, hne⟩
        rw [newlines, List.count_cons_self]
        exact hline
      · obtain ⟨piece, pieces, hrest, hcons⟩ := splitNewlines_cons hb (before ++ c :: rest)
        rw [hrest] at hline
        rw [newlines, List.count_cons_of_ne hb, List.cons_append, hcons]
        rw [newlines] at hline
        cases hn : before.count '\n' with
        | zero => exact ⟨b :: piece, rfl, List.cons_ne_nil _ _⟩
        | succ k =>
          rw [hn] at hline
          exact ⟨line, hline, hne⟩

end Text

/-! ## 2. Loaded rules -/

namespace Grammar

/-- A table that could be filled holds the rules in order. -/
theorem declareAll_rules {path : Path} {t t' : RuleTable} {rs : List Rule}
    (h : declareAll path t rs = .ok t') : t'.rules = t.rules ++ rs := by
  induction rs generalizing t with
  | nil =>
    cases h
    exact (List.append_nil _).symm
  | cons r rs ih =>
    rw [declareAll] at h
    split at h
    · rw [ih h, RuleTable.add, List.append_assoc]
      rfl
    · cases h

/-- A grammar file that was read has a text, which gives its grammar and its lines. -/
theorem ofFile_ok {files : FileTree} {path : Path} {f : FromFile} (h : ofFile files path = .ok f) :
    ∃ text, files.read path = .ok text ∧ Grammar.read text = .ok f.grammar ∧
      f.lines = (Text.splitLines text).map String.ofList := by
  unfold ofFile at h
  split at h
  · cases h
  · cases h
  · cases hread : files.read path with
    | error e =>
      rw [hread] at h
      cases h
    | ok text =>
      rw [hread] at h
      cases hgrammar : Grammar.read text with
      | error e =>
        change ((Grammar.read text).mapError _ >>= _) = _ at h
        rw [hgrammar] at h
        cases h
      | ok g =>
        change ((Grammar.read text).mapError _ >>= _) = _ at h
        rw [hgrammar] at h
        cases h
        exact ⟨text, rfl, hgrammar, rfl⟩

/-- The rules and the lines of one mode come from one grammar file. -/
def Provides (f : FromFile) (g : RuleSet) (mode : Mode) : Prop :=
  g.lines mode = f.lines ∧ ∀ r ∈ (g.table mode).rules, r ∈ f.grammar.rules

theorem provides_of_combined {path : Path} {f : FromFile} {g : RuleSet}
    (h : combined path f = .ok g) (mode : Mode) : Provides f g mode := by
  unfold combined at h
  cases hlexer : declareAll path .empty (f.grammar.rules.filter Rule.isLexer) with
  | error e =>
    rw [hlexer] at h
    cases h
  | ok lexerRules =>
    rw [hlexer] at h
    change (declareAll path .empty (f.grammar.rules.filter fun r => !r.isLexer) >>= _) = _ at h
    cases hparser : declareAll path .empty (f.grammar.rules.filter fun r => !r.isLexer) with
    | error e =>
      rw [hparser] at h
      cases h
    | ok parserRules =>
      rw [hparser] at h
      cases h
      have hlexer' := declareAll_rules hlexer
      have hparser' := declareAll_rules hparser
      cases mode with
      | lexer =>
        refine ⟨rfl, fun r hr => ?_⟩
        have hr' : r ∈ lexerRules.rules := hr
        rw [hlexer'] at hr'
        exact (List.mem_filter.mp hr').1
      | parser =>
        refine ⟨rfl, fun r hr => ?_⟩
        have hr' : r ∈ parserRules.rules := hr
        rw [hparser'] at hr'
        exact (List.mem_filter.mp hr').1

theorem provides_of_paired {parserPath lexerPath : Path} {parser lexer : FromFile} {g : RuleSet}
    (h : paired parserPath lexerPath parser lexer = .ok g) :
    Provides parser g .parser ∧ Provides lexer g .lexer := by
  unfold paired at h
  cases hlexer : declareAll lexerPath .empty lexer.grammar.rules with
  | error e =>
    rw [hlexer] at h
    cases h
  | ok lexerRules =>
    rw [hlexer] at h
    change (declareAll parserPath .empty parser.grammar.rules >>= _) = _ at h
    cases hparser : declareAll parserPath .empty parser.grammar.rules with
    | error e =>
      rw [hparser] at h
      cases h
    | ok parserRules =>
      rw [hparser] at h
      cases h
      have hlexer' : lexerRules.rules = lexer.grammar.rules := declareAll_rules hlexer
      have hparser' : parserRules.rules = parser.grammar.rules := declareAll_rules hparser
      exact ⟨⟨rfl, fun r hr => hparser' ▸ hr⟩, ⟨rfl, fun r hr => hlexer' ▸ hr⟩⟩

theorem finishLoad_ok {log : List Message} {parserPath : Path} {lexerPath : Option Path}
    {result : Except LoadError RuleSet} {g : RuleSet}
    (h : (finishLoad log parserPath lexerPath result).result = .ok g) : result = .ok g := by
  cases result with
  | error e => cases h
  | ok g' => exact h

end Grammar

/-- The file that the rules of a mode are read from. -/
def sourcePath (parserPath : Path) (lexerPath : Option Path) : Mode → Path
  | .lexer => lexerPath.getD parserPath
  | .parser => parserPath

open Grammar in
/-- Every mode of a loaded rule set has a grammar file that provides it. -/
theorem provides_of_load {files : FileTree} {parserPath : Path} {lexerPath : Option Path}
    {g : RuleSet} (h : (RuleSet.load files parserPath lexerPath).result = .ok g) (mode : Mode) :
    ∃ f, ofFile files (sourcePath parserPath lexerPath mode) = .ok f ∧ Provides f g mode := by
  unfold RuleSet.load at h
  cases hparser : ofFile files parserPath with
  | error e =>
    rw [hparser] at h
    cases h
  | ok parser =>
    rw [hparser] at h
    cases lexerPath with
    | none =>
      refine ⟨parser, ?_, provides_of_combined (finishLoad_ok h) mode⟩
      cases mode <;> exact hparser
    | some lexerPath =>
      dsimp only at h
      cases hlexer : ofFile files lexerPath with
      | error e =>
        rw [hlexer] at h
        cases h
      | ok lexer =>
        rw [hlexer] at h
        obtain ⟨hp, hl⟩ := provides_of_paired (finishLoad_ok h)
        cases mode with
        | lexer => exact ⟨lexer, hlexer, hl⟩
        | parser => exact ⟨parser, hparser, hp⟩

/-! ## 3. Section markers -/

/-- The line consulted for a name in a text, if no other boundary stands down to that line. -/
theorem sectionAt_splitLines {text : List Char} {r : Rule} (hr : r.StandsIn text)
    (pattern : Pattern) {offset : Int} (hoffset : 1 ≤ offset)
    (hunbroken : ∀ line ∈ (Text.splitNewlines text).take (r.line - offset + 1).toNat,
      Text.IsUnbroken line) :
    sectionAt pattern ((Text.splitLines text).map String.ofList) offset r.line =
      (Text.physicalLine text (r.line - offset)).bind (pattern.searchGroup "section") := by
  obtain ⟨before, c, more, after, rfl, -, hc, hline⟩ := hr
  unfold sectionAt Text.physicalLine
  dsimp only
  by_cases hneg : r.line - offset < 0
  · rw [if_pos hneg, if_pos hneg]
    rfl
  · rw [if_neg hneg, if_neg hneg, List.getElem?_map]
    have hk : (r.line - offset).toNat ≤ Text.newlines before := by omega
    have hc' : c ≠ '\n' := by
      rintro rfl
      cases hc
    have hindex : (r.line - offset + 1).toNat = (r.line - offset).toNat + 1 := by omega
    rw [hindex] at hunbroken
    rw [Text.getElem?_splitLines hunbroken (Text.line_there hc' before (more ++ after) hk)]

/-- **The marker of a rule is looked for on the physical line that the settings say**: every rule of
    a loaded rule set has its name in the text of its file, on the line it is said to have, and the
    line consulted for its section is the one `offset - 1` above it, if from the first line to that
    one no line is broken by another boundary than a newline. Above the first line there is none. -/
theorem section_on_physical_line {files : FileTree} {parserPath : Path} {lexerPath : Option Path}
    {g : RuleSet} (h : (RuleSet.load files parserPath lexerPath).result = .ok g) (mode : Mode) :
    ∃ text, files.read (sourcePath parserPath lexerPath mode) = .ok text ∧
      ∀ r ∈ (g.table mode).rules, r.StandsIn text ∧
        ∀ (pattern : Pattern) (offset : Int), 1 ≤ offset →
          (∀ line ∈ (Text.splitNewlines text).take (r.line - offset + 1).toNat,
            Text.IsUnbroken line) →
          sectionAt pattern (g.lines mode) offset r.line =
            (Text.physicalLine text (r.line - offset)).bind (pattern.searchGroup "section") := by
  obtain ⟨f, hf, hlines, hrules⟩ := provides_of_load h mode
  obtain ⟨text, htext, hgrammar, hflines⟩ := Grammar.ofFile_ok hf
  refine ⟨text, htext, fun r hr => ?_⟩
  have hstands := stands_of_read hgrammar r (hrules r hr)
  refine ⟨hstands, fun pattern offset hoffset hunbroken => ?_⟩
  rw [hlines, hflines]
  exact sectionAt_splitLines hstands pattern hoffset hunbroken

/-! ## 4. Two grammar files -/

/-- A folder with one grammar file, of plain characters. -/
def FileTree.ofGrammar (text : String) : FileTree where
  entries := [(["T.g4"], .file (text.toList.map fun c => UInt8.ofNat c.toNat))]

/-- Where that file lies. -/
def grammarPath : Path := Path.ofString "T.g4"

/-- A rule two lines below its marker. -/
def markedGrammar : FileTree := .ofGrammar "grammar T;\n\n// SECTION: One\n\nr: 'x' ;\n"

theorem section_on_physical_line_marked :
    ∃ g, (RuleSet.load markedGrammar grammarPath none).result = .ok g ∧
      ∃ r ∈ g.parserRules.rules, r.line = 5 ∧ ∀ pattern : Pattern,
        sectionAt pattern g.parserLines 3 r.line =
          pattern.searchGroup "section" "// SECTION: One" := by
  have hload : ((RuleSet.load markedGrammar grammarPath none).result.toOption.map fun g =>
      g.parserRules.rules.map Rule.line) = some [5] := by decide +kernel
  cases h : (RuleSet.load markedGrammar grammarPath none).result with
  | error e =>
    rw [h] at hload
    cases hload
  | ok g =>
    rw [h] at hload
    have hlines : g.parserRules.rules.map Rule.line = [5] := Option.some.inj hload
    obtain ⟨r, rs, hrs, hline, -⟩ := List.map_eq_cons_iff.mp hlines
    have hr : r ∈ g.parserRules.rules := hrs ▸ List.mem_cons_self
    refine ⟨g, rfl, r, hr, hline, fun pattern => ?_⟩
    obtain ⟨text, htext, hrules⟩ := section_on_physical_line h .parser
    have hread : (markedGrammar.read grammarPath).toOption =
        some "grammar T;\n\n// SECTION: One\n\nr: 'x' ;\n".toList := by decide +kernel
    have htext' : markedGrammar.read grammarPath = .ok text := htext
    rw [htext'] at hread
    cases Option.some.inj hread
    have hsection := (hrules r hr).2 pattern 3 (by decide)
    rw [hline] at hsection ⊢
    exact hsection (by unfold Text.IsUnbroken; decide +kernel)

/-- The same rule below a comment that holds a form feed. -/
def formFeedGrammar : FileTree := .ofGrammar "grammar T;\n// a\x0cb\n// SECTION: One\n\nr: 'x' ;\n"

/-- A form feed above a marker moves the printed lines apart from the physical ones: the marker two
    lines above the rule is not found. -/
theorem section_lost_at_formFeed :
    ∃ g text pattern, (RuleSet.load formFeedGrammar grammarPath none).result = .ok g ∧
      formFeedGrammar.read grammarPath = .ok text ∧ Pattern.read ({} : Settings).pattern = .ok pattern ∧
      ∃ r ∈ g.parserRules.rules,
        (Text.physicalLine text (r.line - 3)).bind (pattern.searchGroup "section") = some "One" ∧
        sectionAt pattern g.parserLines 3 r.line = none := by
  have hrun : (match (RuleSet.load formFeedGrammar grammarPath none).result,
      formFeedGrammar.read grammarPath, Pattern.read ({} : Settings).pattern with
    | .ok g, .ok text, .ok pattern => g.parserRules.rules.any fun r =>
      (Text.physicalLine text (r.line - 3)).bind (pattern.searchGroup "section") = some "One" ∧
        sectionAt pattern g.parserLines 3 r.line = none
    | _, _, _ => false) = true := by decide +kernel
  split at hrun
  · rename_i g text pattern hload hread hpattern
    obtain ⟨r, hr, hfound⟩ := List.any_eq_true.mp hrun
    exact ⟨g, text, pattern, hload, hread, hpattern, r, hr, of_decide_eq_true hfound⟩
  · cases hrun

end GrammarManual
