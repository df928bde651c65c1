import GrammarManual.Command.Run
import GrammarManual.Proofs.Comments
import GrammarManual.Proofs.Sketch
import GrammarManual.Proofs.XmlSets

/-!
# Proofs/Blurbs: blurbs never alter a grammar

The folder with the blurbs is the only thing a manual is drawn from that is not written for it. Two
runs that differ in nothing but this folder walk the same rules and draw the same strokes, blurbs
apart. In the text a blurb is a comment.

* `Source.within` -- a source with the blurbs of another folder; its walks are the same;
* `Source.broken?` -- the error that ends the walks, if there is one;
* `Stroke.Alike`, `TextDraft.Alike` -- strokes and texts that are the same but for blurbs;
* `Alike.step`, `Alike.draw` -- one stroke, and a run of strokes, keep texts alike;
* **`blurbs_stay_comments`** -- blank lines and comments apart, the texts are equal.
-/

namespace GrammarManual

namespace Script

namespace Source

/-! ## 1. Walks -/

/-- A source with the blurbs of another folder. -/
def within (s : Source) (folder : Path) (files : FileTree) : Source :=
  { s with settings := { s.settings with docsFolder := folder }, files }

variable (s : Source) (folder : Path) (files : FileTree)

theorem documentParser_within (rs : List Rule) :
    (s.within folder files).documentParser rs = s.documentParser rs := by
  induction rs with
  | nil => rfl
  | cons r rs ih =>
    rw [documentParser, documentParser, ih]
    rfl

theorem lexerRound_within (rs : List Rule) (done : List Item) :
    (s.within folder files).lexerRound rs done = s.lexerRound rs done := by
  induction rs generalizing done with
  | nil => rfl
  | cons r rs ih =>
    rw [lexerRound, lexerRound]
    simp only [ih]
    rfl

theorem lexerRounds_within (rs : List Rule) (fuel : Nat) (done : List Item) :
    (s.within folder files).lexerRounds rs fuel done = s.lexerRounds rs fuel done := by
  induction fuel generalizing done with
  | zero => rfl
  | succ fuel ih =>
    rw [lexerRounds, lexerRounds, lexerRound_within]
    simp only [ih]

theorem documentLexer_within : (s.within folder files).documentLexer = s.documentLexer := by
  unfold documentLexer
  simp only [lexerRounds_within]
  rfl

/-- The error that ends the walks. -/
def broken? : Option WalkError :=
  match runFrom (s.documentParser s.rules.parserRules.rules) (.ofSymbols s.rules.names) with
  | (.error e, _) => some e
  | (.ok _, m) =>
    match runFrom s.documentLexer m with
    | (.error e, _) => some e
    | (.ok _, _) => none

theorem broken?_within : (s.within folder files).broken? = s.broken? := by
  have hrules : (s.within folder files).rules = s.rules := rfl
  unfold broken?
  rw [documentLexer_within, documentParser_within, hrules]

theorem walks_within {lexerItems parserItems : List Item} {m : UsageMap Nat}
    (h : s.Walks lexerItems parserItems m) :
    (s.within folder files).Walks lexerItems parserItems m := by
  obtain ⟨m₁, hparser, hlexer⟩ := h
  refine ⟨m₁, ?_, ?_⟩
  · rw [documentParser_within]
    exact hparser
  · rw [documentLexer_within]
    exact hlexer

/-- Walks that are not broken yield the items of a manual. -/
theorem walks_of_unbroken (h : s.broken? = none) :
    ∃ lexerItems parserItems m, s.Walks lexerItems parserItems m := by
  unfold broken? at h
  rcases hp : runFrom (s.documentParser s.rules.parserRules.rules) (.ofSymbols s.rules.names) with
    ⟨parserItems | parserItems, m₁⟩
  · rw [hp] at h
    cases h
  · rw [hp] at h
    dsimp only at h
    rcases hl : runFrom s.documentLexer m₁ with ⟨lexerItems | lexerItems, m⟩
    · rw [hl] at h
      cases h
    · exact ⟨lexerItems, parserItems, m, m₁, hp, hl⟩

theorem walking_broken {α : Type} {w : Walk Nat α} {c : Course} {e : WalkError} {m : UsageMap Nat}
    (h : runFrom w c.usages = (.error e, m)) :
    runFrom (walking w) c = (.error (.walk e), { c with usages := m }) := by
  rw [walking_eq, h]
  rfl

/-- A broken walk ends the run. -/
theorem write_of_broken {e : WalkError} (h : s.broken? = some e) :
    ∃ c, runFrom s.write {} = (.error (.walk e), c) := by
  have hseed : runFrom (modify fun c : Course => { c with usages := .ofSymbols s.rules.names } :
      Writing Unit) {} = (.ok (), { usages := .ofSymbols s.rules.names }) := rfl
  rw [write_eq, runFrom_bind_ok hseed]
  unfold broken? at h
  rcases hp : runFrom (s.documentParser s.rules.parserRules.rules) (.ofSymbols s.rules.names) with
    ⟨err | parserItems, m₁⟩
  · rw [hp] at h
    cases h
    exact ⟨_, runFrom_bind_error (walking_broken hp)⟩
  · rw [hp] at h
    dsimp only at h
    rw [runFrom_bind_ok (walking_run hp)]
    rcases hl : runFrom s.documentLexer m₁ with ⟨err | lexerItems, m⟩
    · rw [hl] at h
      cases h
      exact ⟨_, runFrom_bind_error (walking_broken hl)⟩
    · rw [hl] at h
      cases h

end Source

end Script

open Script in
/-- A script ends early where its walks are broken. -/
theorem RuleSet.script_of_broken [PatternLanguage] {s : Source} {e : WalkError}
    (hpattern : Pattern.read s.settings.pattern = .ok s.pattern) (h : s.broken? = some e) :
    (s.rules.script s.settings s.files).stop = some (.walk e) := by
  obtain ⟨c, hrun⟩ := s.write_of_broken h
  have hrun' : s.write.run.run {} = (.error (.walk e), c) := hrun
  unfold RuleSet.script
  rw [hpattern]
  dsimp only
  rw [hrun']

/-! ## 2. Texts alike -/

/-- A text takes every stroke. -/
theorem Script.drawStrokes_text (strokes : List Stroke) (d : TextDraft) :
    drawStrokes textEasel 0 strokes d = (strokes.foldl TextDraft.step d, none) := by
  induction strokes generalizing d with
  | nil => rfl
  | cons s strokes ih =>
    show drawStrokes textEasel 0 strokes (d.step (s.shift 0)) = _
    rw [s.shift_zero, ih]
    rfl

/-- What a text comes to: its script ends early, or it is finished. -/
theorem Script.perform_text (script : Script) :
    (script.perform textEasel textEasel.fresh).2.result =
      match script.stop with
      | some stop => .error stop
      | none => .ok (TextDraft.toText ((strokesOf script.steps).foldl TextDraft.step {})) := by
  have hcount : textEasel.itemCount textEasel.fresh = 0 := rfl
  have hdrawn : drawStrokes textEasel 0 (strokesOf script.steps) textEasel.fresh =
      ((strokesOf script.steps).foldl TextDraft.step {}, none) := drawStrokes_text _ _
  obtain ⟨log, hlog⟩ := performSteps_strokes textEasel 0 script.steps textEasel.fresh
  unfold perform
  rw [hcount, hlog, hdrawn]
  cases script.stop <;> rfl

namespace TextDraft

/-- The plain lines of some blocks, whose items are given. -/
def plainLines (items : List TextItem) (blocks : List TextBlock) : List (List Char) :=
  blocks.flatMap fun b =>
    (blockLines { items } b).flatMap fun line => Text.plainLines line.toList

theorem plainLines_concat (items : List TextItem) (blocks : List TextBlock) (b : TextBlock) :
    plainLines items (blocks ++ [b]) = plainLines items blocks ++ plainLines items [b] := by
  unfold plainLines
  rw [List.flatMap_append]

/-- **The plain lines of a text** are those of its blocks. -/
theorem plainLines_toText (d : TextDraft) :
    Text.plainLines d.toText.toList = plainLines d.items d.blocks := by
  have hgap : "\n\n".toList = ['\n', '\n'] := rfl
  have hline : "\n".toList = ['\n'] := rfl
  unfold toText plainLines
  rw [String.toList_append, String.toList_intercalate, hgap, hline, Text.plainLines_append,
    Text.plainLines_blocks, Text.plainLines_nil, List.append_nil, List.map_map, List.flatMap_map]
  refine congrArg (List.flatMap · d.blocks) (funext fun b => ?_)
  rw [Function.comp_apply, String.toList_intercalate, hline, Text.plainLines_intercalate,
    List.flatMap_map]
  cases b <;> rfl

/-- **Texts that are the same but for comments**: they hold the same items, and whatever becomes of
    these, the same plain lines. -/
structure Alike (d d' : TextDraft) : Prop where
  items : d.items = d'.items
  inSection : d.inSection = d'.inSection
  lines : ∀ items, plainLines items d.blocks = plainLines items d'.blocks

end TextDraft

/-- Strokes that are the same but for a blurb. -/
inductive Stroke.Alike : Stroke → Stroke → Prop
  | same (s : Stroke) : Alike s s
  | opening (name : String) {blurb blurb' : Option String} (h : ∀ text ∈ blurb, IsFlat text)
      (h' : ∀ text ∈ blurb', IsFlat text) :
    Alike (.openSection name blurb) (.openSection name blurb')

namespace TextDraft

variable {d d' : TextDraft}

theorem Alike.refl (d : TextDraft) : d.Alike d := ⟨rfl, rfl, fun _ => rfl⟩

theorem Alike.symm (h : d.Alike d') : d'.Alike d :=
  ⟨h.items.symm, h.inSection.symm, fun items => (h.lines items).symm⟩

theorem Alike.trans {d'' : TextDraft} (h : d.Alike d') (h' : d'.Alike d'') : d.Alike d'' :=
  ⟨h.items.trans h'.items, h.inSection.trans h'.inSection,
    fun items => (h.lines items).trans (h'.lines items)⟩

/-- The same block is added to both. -/
theorem Alike.add (h : d.Alike d') (b : TextBlock) : (d.add b).Alike (d'.add b) := by
  refine ⟨h.items, h.inSection, fun items => ?_⟩
  show plainLines items (d.blocks ++ [b]) = plainLines items (d'.blocks ++ [b])
  rw [plainLines_concat, plainLines_concat, h.lines]

/-- Lines under a title are left out if each of them is. -/
theorem plainLines_titled (items : List TextItem) (title : String) {below : List String}
    (h : ∀ line ∈ below, Text.plainLines line.toList = []) :
    plainLines items [.lines (title :: below)] = Text.plainLines title.toList := by
  have hbelow : (below.flatMap fun line => Text.plainLines line.toList) = [] :=
    List.flatMap_eq_nil_iff.mpr h
  unfold plainLines blockLines
  rw [List.flatMap_singleton, List.flatMap_cons, hbelow, List.append_nil]

/-- A flat blurb, or none, leaves no plain line. -/
theorem blurb_plainLines {blurb : Option String} (h : ∀ text ∈ blurb, IsFlat text) :
    ∀ line ∈ blurb.elim [] comment, Text.plainLines line.toList = [] := by
  cases blurb with
  | none => exact fun line hline => absurd hline List.not_mem_nil
  | some text => exact comment_plainLines (h text rfl)

/-- Notes on the notation add no plain line. -/
theorem alike_preamble (d : TextDraft) {text : String} (h : IsFlat text) :
    (d.step (.preamble text)).Alike d := by
  have hnone : ((comment text).flatMap fun line => Text.plainLines line.toList) = [] :=
    List.flatMap_eq_nil_iff.mpr (comment_plainLines h)
  refine ⟨rfl, rfl, fun items => ?_⟩
  show plainLines items (d.blocks ++ [.lines (comment text)]) = _
  rw [plainLines_concat]
  refine (congrArg (plainLines items d.blocks ++ ·) ?_).trans (List.append_nil _)
  unfold plainLines blockLines
  rw [List.flatMap_singleton, hnone]

/-- **Strokes that are alike keep texts alike.** -/
theorem Alike.step (h : d.Alike d') {s s' : Stroke} (hs : s.Alike s') :
    (d.step s).Alike (d'.step s') := by
  cases hs with
  | opening name hblurb hblurb' =>
    refine ⟨h.items, rfl, fun items => ?_⟩
    show plainLines items (d.blocks ++ [_]) = plainLines items (d'.blocks ++ [_])
    rw [plainLines_concat, plainLines_concat, h.lines,
      plainLines_titled _ _ (blurb_plainLines hblurb),
      plainLines_titled _ _ (blurb_plainLines hblurb')]
  | same =>
    cases s with
    | begin => exact ⟨h.items, rfl, fun _ => rfl⟩
    | preamble text => exact h.add _
    | openSection name blurb =>
      have hadd := h.add (.lines (("// SECTION: " ++ name) :: blurb.elim [] comment))
      exact ⟨hadd.items, rfl, hadd.lines⟩
    | leaveSection =>
      have hadd := h.add (.lines [sectionEnd])
      unfold TextDraft.step
      rw [h.inSection]
      cases d'.inSection with
      | false => exact h
      | true => exact ⟨hadd.items, rfl, hadd.lines⟩
    | addItem helper =>
      have hadd := h.add (.item d.items.length)
      have hlength : d.items.length = d'.items.length := by rw [h.items]
      refine ⟨congrArg (· ++ [_]) h.items, h.inSection, fun items => ?_⟩
      show plainLines items (d.blocks ++ [_]) = plainLines items (d'.blocks ++ [_])
      rw [← hlength]
      exact hadd.lines items
    | write index mark =>
      exact ⟨congrArg (List.modify · index _) h.items, h.inSection, h.lines⟩

/-- **Runs of strokes that are alike keep texts alike.** -/
theorem Alike.draw {strokes strokes' : List Stroke}
    (hs : List.Forall₂ Stroke.Alike strokes strokes') (h : d.Alike d') :
    (strokes.foldl TextDraft.step d).Alike (strokes'.foldl TextDraft.step d') := by
  induction hs generalizing d d' with
  | nil => exact h
  | cons hs _ ih => exact ih (h.step hs)

end TextDraft

/-! ## 3. Strokes alike -/

/-- Blurbs that can be read, or are not there, and are flat. -/
structure FileTree.HoldsBlurbs (files : FileTree) (folder : Path) (names : List String) : Prop where
  readable : ∀ name ∈ names, ∃ blurb, readBlurb files folder name = .ok blurb
  flat : ∀ name ∈ names, ∀ text, readBlurb files folder name = .ok (some text) → IsFlat text

/-- What is read of a blurb that a folder holds. -/
def isHeldBlurb : Except ReadError (Option String) → Bool
  | .ok none => true
  | .ok (some text) => decide (IsFlat text)
  | .error _ => false

theorem FileTree.holdsBlurbs_iff {files : FileTree} {folder : Path} {names : List String} :
    (∀ name ∈ names, isHeldBlurb (readBlurb files folder name) = true) ↔
      files.HoldsBlurbs folder names := by
  constructor
  · intro h
    refine ⟨fun name hname => ?_, fun name hname text htext => ?_⟩
    · have hheld := h name hname
      cases hread : readBlurb files folder name with
      | error e =>
        rw [hread] at hheld
        cases hheld
      | ok blurb => exact ⟨blurb, rfl⟩
    · have hheld := h name hname
      rw [htext] at hheld
      exact of_decide_eq_true hheld
  · intro h name hname
    obtain ⟨blurb, hread⟩ := h.readable name hname
    rw [hread]
    cases blurb with
    | none => rfl
    | some text => exact decide_eq_true (h.flat name hname text hread)

instance (files : FileTree) (folder : Path) (names : List String) :
    Decidable (files.HoldsBlurbs folder names) :=
  decidable_of_iff _ FileTree.holdsBlurbs_iff

namespace Script.Source

variable {s : Source} {lexerItems parserItems items : List Item} {m : UsageMap Nat}

/-- A section that is opened is that of an item. -/
theorem opens_of_mem_itemsStrokes {current : Option String} {number : Nat} {name : String}
    {blurb : Option String} (h : .openSection name blurb ∈ s.itemsStrokes current number items) :
    ∃ i ∈ items, i.opens = some name := by
  obtain ⟨i, hi, ⟨_, hopens, hopen⟩ | hadd | ⟨_, _, -, hwrite⟩⟩ := mem_itemsStrokes h
  · cases hopen
    exact ⟨i, hi, hopens⟩
  · cases hadd
  · cases hwrite

/-- The blurbs that a manual may ask for: that on the notation, and those of all sections. -/
theorem opens_mem_blurbNames [PatternLanguage]
    (hpattern : Pattern.read s.settings.pattern = .ok s.pattern)
    (hw : s.Walks lexerItems parserItems m) {i : Item} {name : String}
    (hi : i ∈ lexerItems ++ parserItems) (h : i.opens = some name) :
    name ∈ Command.Invocation.blurbNames s.settings s.rules := by
  have hsection : ∀ (mode : Mode) {r : Rule}, r ∈ (s.rules.table mode).rules →
      (s.itemOf mode r).opens = some name → name ∈ (s.rules.table mode).rules.filterMap fun r =>
        sectionAt s.pattern (s.rules.lines mode) s.settings.offset r.line :=
    fun mode _ hr hopens => List.mem_filterMap.mpr ⟨_, hr, hopens⟩
  unfold Command.Invocation.blurbNames
  rw [hpattern]
  rcases List.mem_append.mp hi with hlexer | hparser
  · rw [hw.survey.lexer] at hlexer
    obtain ⟨r, hr, rfl⟩ := List.mem_map.mp hlexer
    have hmem := hsection .lexer (List.mem_of_mem_filter hr) h
    exact List.mem_cons_of_mem _ (List.mem_append_left _ hmem)
  · rw [hw.survey.parser] at hparser
    obtain ⟨r, hr, rfl⟩ := List.mem_map.mp hparser
    have hmem := hsection .parser hr h
    exact List.mem_cons_of_mem _ (List.mem_append_right _ hmem)

theorem preamble_mem_blurbNames [PatternLanguage] {settings : Settings} {rules : RuleSet}
    {pattern : Pattern}
    (hpattern : Pattern.read settings.pattern = .ok pattern) :
    preambleName ∈ Command.Invocation.blurbNames settings rules := by
  unfold Command.Invocation.blurbNames
  rw [hpattern]
  exact List.mem_cons_self

/-- A blurb that a folder holds is flat. -/
theorem isFlat_blurbOf {names : List String} {name : String}
    (h : s.files.HoldsBlurbs s.settings.docsFolder names) (hname : name ∈ names) :
    ∀ text ∈ s.blurbOf name, IsFlat text := by
  intro text htext
  have hread := readBlurb_eq (h.readable name hname)
  rw [Option.mem_def.mp htext] at hread
  exact h.flat name hname text hread

section Alike

variable {folder folder' : Path} {files files' : FileTree}

theorem openingStrokes_alike (current : Option String) {opens : Option String}
    (h : ∀ name ∈ opens, ∀ text ∈ (s.within folder files).blurbOf name, IsFlat text)
    (h' : ∀ name ∈ opens, ∀ text ∈ (s.within folder' files').blurbOf name, IsFlat text) :
    List.Forall₂ Stroke.Alike ((s.within folder files).openingStrokes current opens)
      ((s.within folder' files').openingStrokes current opens) := by
  cases opens with
  | none => exact .nil
  | some name =>
    unfold openingStrokes
    dsimp only
    split
    · exact .nil
    · exact .cons (.opening name (h name rfl) (h' name rfl)) .nil

theorem alike_refl (strokes : List Stroke) : List.Forall₂ Stroke.Alike strokes strokes :=
  List.forall₂_same.mpr fun s _ => .same s

/-- **Items are written by strokes that are alike**, whatever folder their blurbs come from. -/
theorem itemsStrokes_alike (current : Option String) (number : Nat)
    (h : ∀ i ∈ items, ∀ name ∈ i.opens, ∀ text ∈ (s.within folder files).blurbOf name,
      IsFlat text)
    (h' : ∀ i ∈ items, ∀ name ∈ i.opens, ∀ text ∈ (s.within folder' files').blurbOf name,
      IsFlat text) :
    List.Forall₂ Stroke.Alike ((s.within folder files).itemsStrokes current number items)
      ((s.within folder' files').itemsStrokes current number items) := by
  induction items generalizing current number with
  | nil => exact .nil
  | cons i is ih =>
    have hopening := openingStrokes_alike current (h i List.mem_cons_self)
      (h' i List.mem_cons_self)
    have hitem : (s.within folder files).itemStrokes number i =
        (s.within folder' files').itemStrokes number i := rfl
    rw [itemsStrokes, itemsStrokes, hitem]
    refine List.rel_append (List.rel_append hopening (alike_refl _)) (ih _ _ ?_ ?_)
    · exact fun q hq => h q (List.mem_cons_of_mem i hq)
    · exact fun q hq => h' q (List.mem_cons_of_mem i hq)

end Alike

/-- The text behind the notes on the notation is like one without them. -/
theorem preamble_alike (d : TextDraft)
    (h : ∀ text ∈ s.blurbOf preambleName, IsFlat text) :
    (((s.blurbOf preambleName).map Stroke.preamble).toList.foldl TextDraft.step d).Alike d := by
  cases hb : s.blurbOf preambleName with
  | none => exact .refl d
  | some text => exact d.alike_preamble (h text hb)

/-- **The texts of two folders are alike.** -/
theorem texts_alike {folder folder' : Path} {files files' : FileTree} {names : List String}
    (h : files.HoldsBlurbs folder names) (h' : files'.HoldsBlurbs folder' names)
    (hnotes : preambleName ∈ names)
    (hopens : ∀ i ∈ lexerItems ++ parserItems, ∀ name ∈ i.opens, name ∈ names) :
    (((s.within folder files).strokes lexerItems parserItems m).foldl TextDraft.step {}).Alike
      (((s.within folder' files').strokes lexerItems parserItems m).foldl TextDraft.step {}) := by
  have hflat : ∀ i ∈ lexerItems ++ parserItems, ∀ name ∈ i.opens,
      ∀ text ∈ (s.within folder files).blurbOf name, IsFlat text :=
    fun i hi name hname => isFlat_blurbOf (s := s.within folder files) h (hopens i hi name hname)
  have hflat' : ∀ i ∈ lexerItems ++ parserItems, ∀ name ∈ i.opens,
      ∀ text ∈ (s.within folder' files').blurbOf name, IsFlat text :=
    fun i hi name hname => isFlat_blurbOf (s := s.within folder' files') h' (hopens i hi name hname)
  have hlexer := itemsStrokes_alike none 0
    (fun i hi => hflat i (List.mem_append_left _ hi))
    (fun i hi => hflat' i (List.mem_append_left _ hi))
  have hparser := itemsStrokes_alike none lexerItems.length
    (fun i hi => hflat i (List.mem_append_right _ hi))
    (fun i hi => hflat' i (List.mem_append_right _ hi))
  have hleave := Stroke.Alike.same .leaveSection
  have hrest := List.rel_append (List.rel_append (List.Forall₂.cons hleave hlexer)
    (List.Forall₂.cons hleave hparser))
    (alike_refl (usageStrokes (bound m 0 (lexerItems ++ parserItems)).flush))
  have hbegun := ((s.within folder files).preamble_alike {}
      (isFlat_blurbOf (s := s.within folder files) h hnotes)).trans
    ((s.within folder' files').preamble_alike {}
      (isFlat_blurbOf (s := s.within folder' files') h' hnotes)).symm
  have hsplit : ∀ q : Source, (q.strokes lexerItems parserItems m).foldl TextDraft.step {} =
      ((.leaveSection :: q.itemsStrokes none 0 lexerItems) ++
        (.leaveSection :: q.itemsStrokes none lexerItems.length parserItems) ++
          usageStrokes (bound m 0 (lexerItems ++ parserItems)).flush).foldl TextDraft.step
        (((q.blurbOf preambleName).map Stroke.preamble).toList.foldl TextDraft.step {}) := by
    intro q
    rw [← List.foldl_append, strokes, List.append_assoc, List.append_assoc, List.append_assoc]
  rw [hsplit, hsplit]
  exact hbegun.draw hrest

end Script.Source

/-! ## 4. Manuals -/

/-- The text of a source whose walks are broken. -/
theorem Script.Source.text_of_broken [PatternLanguage] {s : Source} {e : WalkError}
    (hpattern : Pattern.read s.settings.pattern = .ok s.pattern) (h : s.broken? = some e) :
    (s.rules.manual .text s.settings s.files).result = .error (.walk e) := by
  refine (Script.perform_text _).trans ?_
  rw [RuleSet.script_of_broken hpattern h]

/-- The text of a source whose blurbs can be read. -/
theorem Script.Source.text_of_walks [PatternLanguage] {s : Source}
    (hpattern : Pattern.read s.settings.pattern = .ok s.pattern)
    (h : s.files.HoldsBlurbs s.settings.docsFolder
      (Command.Invocation.blurbNames s.settings s.rules))
    {lexerItems parserItems : List Item} {m : UsageMap Nat}
    (hw : s.Walks lexerItems parserItems m) :
    (s.rules.manual .text s.settings s.files).result = .ok (TextDraft.toText
      ((s.strokes lexerItems parserItems m).foldl TextDraft.step {})) := by
  have hopens : ∀ {current number items name text}, (∀ i ∈ items, i ∈ lexerItems ++ parserItems) →
      Stroke.openSection name text ∈ s.itemsStrokes current number items → s.Readable name := by
    intro current number items name text hitems hm
    obtain ⟨i, hi, hname⟩ := opens_of_mem_itemsStrokes hm
    exact h.readable name (opens_mem_blurbNames hpattern hw (hitems i hi) hname)
  have hread : s.AllReadable lexerItems parserItems :=
    ⟨h.readable _ (preamble_mem_blurbNames hpattern),
      fun _ _ hm => hopens (fun _ hi => List.mem_append_left _ hi) hm,
      fun _ _ hm => hopens (fun _ hi => List.mem_append_right _ hi) hm⟩
  obtain ⟨hstop, hstrokes⟩ := RuleSet.script_total hpattern hw hread
  refine (Script.perform_text _).trans ?_
  rw [hstop, hstrokes]
  rfl

open Script in
/-- **Blurbs stay comments.** Two folders whose blurbs can be read, and hold no newline within a
    text, a code or a target, give texts that are equal up to blank lines and comments; or both runs
    end with the same error. -/
theorem blurbs_stay_comments [PatternLanguage] {rules : RuleSet} {settings : Settings}
    {folder folder' : Path}
    {files files' : FileTree}
    (h : files.HoldsBlurbs folder (Command.Invocation.blurbNames settings rules))
    (h' : files'.HoldsBlurbs folder' (Command.Invocation.blurbNames settings rules)) :
    (rules.manual .text { settings with docsFolder := folder } files).result.map
        (fun document => Text.plainLines document.toList) =
      (rules.manual .text { settings with docsFolder := folder' } files').result.map
        fun document => Text.plainLines document.toList := by
  cases hpattern : Pattern.read settings.pattern with
  | error e =>
    have hstop : ∀ (folder : Path) (files : FileTree),
        (rules.manual .text { settings with docsFolder := folder } files).result =
          .error (.pattern e settings.pattern) := by
      intro folder files
      refine (Script.perform_text _).trans ?_
      unfold RuleSet.script
      rw [hpattern]
    rw [hstop, hstop]
  | ok pattern =>
    let s : Source := { rules, settings, files, pattern }
    have hsource : ∀ (folder : Path) (files : FileTree),
        Pattern.read (s.within folder files).settings.pattern =
          .ok (s.within folder files).pattern := fun _ _ => hpattern
    cases hbroken : s.broken? with
    | some e =>
      have hstop : ∀ (folder : Path) (files : FileTree),
          (rules.manual .text { settings with docsFolder := folder } files).result =
            .error (.walk e) := by
        intro folder files
        have hsame := (s.broken?_within folder files).trans hbroken
        exact Source.text_of_broken (s := s.within folder files) (hsource folder files) hsame
      rw [hstop, hstop]
    | none =>
      obtain ⟨lexerItems, parserItems, m, hw⟩ := s.walks_of_unbroken hbroken
      have htext := Source.text_of_walks (s := s.within folder files) (hsource folder files) h
        (s.walks_within folder files hw)
      have htext' := Source.text_of_walks (s := s.within folder' files') (hsource folder' files') h'
        (s.walks_within folder' files' hw)
      have halike := Source.texts_alike (s := s) (m := m) h h'
        (Source.preamble_mem_blurbNames hpattern)
        fun i hi name hname => Source.opens_mem_blurbNames (s := s) hpattern hw hi hname
      have hplain : ∀ {d d' : TextDraft}, d.Alike d' →
          Text.plainLines d.toText.toList = Text.plainLines d'.toText.toList := by
        intro d d' hd
        rw [d.plainLines_toText, d'.plainLines_toText, hd.items, hd.lines]
      refine (congrArg _ htext).trans (Eq.trans ?_ (congrArg _ htext').symm)
      exact congrArg Except.ok (hplain halike)

/-- A folder with a blurb whose list holds code that looks like a rule. -/
def FileTree.codeBlurb : FileTree where
  entries := [(["docs", "One.txt"],
    .file "Tokens of `r`:\n\n- first\n  1. inner\n\n         B: 'no rule' ;\n".toUTF8.toList)]

/-- With that blurb, and with a folder that is not there. -/
theorem blurbs_stay_comments_code :
    FileTree.codeBlurb.HoldsBlurbs { parts := ["docs"] }
        (Command.Invocation.blurbNames {} RuleSet.markedTokens) ∧
      FileTree.codeBlurb.HoldsBlurbs { parts := ["none"] }
        (Command.Invocation.blurbNames {} RuleSet.markedTokens) ∧
      (RuleSet.markedTokens.manual .text
          { ({} : Settings) with docsFolder := { parts := ["docs"] } }
          .codeBlurb).result.map (fun document => Text.plainLines document.toList) =
        (RuleSet.markedTokens.manual .text
          { ({} : Settings) with docsFolder := { parts := ["none"] } }
          .codeBlurb).result.map fun document => Text.plainLines document.toList := by
  have hcode : FileTree.codeBlurb.HoldsBlurbs { parts := ["docs"] }
      (Command.Invocation.blurbNames {} RuleSet.markedTokens) := by decide +kernel
  have hnone : FileTree.codeBlurb.HoldsBlurbs { parts := ["none"] }
      (Command.Invocation.blurbNames {} RuleSet.markedTokens) := by decide +kernel
  exact ⟨hcode, hnone, blurbs_stay_comments hcode hnone⟩

end GrammarManual
