import GrammarManual.Proofs.Sketch
import GrammarManual.Proofs.XmlSets

/-!
# Proofs/TextDrafts: texts follow their sketches

A text has no containers, only blocks. A reader keeps track of the section they are in:

* `TextItem.ofSheet` -- the item that a sheet is written on;
* `TextBlock.read`, `TextDraft.outline?` -- reading a text block by block;
* `TextDraft.Follows` -- behind the blocks read before, a text reads as an outline, it is in a
  section if there is a current chapter, and its items hold the marks of the sheets;
* `Follows.step`, `Follows.draw` -- one stroke, and a run of strokes, keep this;
* **`Script.Draws.text`** -- a text follows the sketch of its script.
-/

namespace GrammarManual

variable {α β : Type}

/-! ## 1. Reading a text -/

/-- The item that a sheet is written on. -/
def TextItem.ofSheet (sheet : Sheet) : TextItem := sheet.foldl TextItem.write {}

theorem TextItem.ofSheet_concat (sheet : Sheet) (mark : Marker) :
    TextItem.ofSheet (sheet ++ [mark]) = (TextItem.ofSheet sheet).write mark :=
  List.foldl_concat _ _ _ _

/-- The name of the section that a line opens. -/
def sectionName? (line : String) : Option String :=
  if "// SECTION: ".toList.isPrefixOf line.toList then
    some (String.ofList (line.toList.drop "// SECTION: ".length))
  else none

theorem sectionName?_title (name : String) : sectionName? ("// SECTION: " ++ name) = some name := by
  have htext : ("// SECTION: " ++ name).toList = "// SECTION: ".toList ++ name.toList :=
    String.toList_append
  have hopens : "// SECTION: ".toList.isPrefixOf ("// SECTION: ".toList ++ name.toList) = true :=
    List.isPrefixOf_iff_prefix.mpr (List.prefix_append _ _)
  unfold sectionName?
  rw [htext, if_pos hopens]
  have hlength : "// SECTION: ".length = "// SECTION: ".toList.length := rfl
  rw [hlength, List.drop_left, String.ofList_toList]

theorem title_ne_sectionEnd (name : String) : "// SECTION: " ++ name ≠ TextDraft.sectionEnd := by
  intro h
  have hname := congrArg sectionName? h
  rw [sectionName?_title] at hname
  have hend : sectionName? TextDraft.sectionEnd = none := by decide
  rw [hend] at hname
  cases hname

/-- Reads a block of a text: an item, the end of the current section, or a line that opens one with
    the remarks below it. -/
def TextBlock.read (o : Outline (List String) (List String) Nat) :
    TextBlock → Option (Outline (List String) (List String) Nat)
  | .item number => some (o.add number)
  | .lines ls =>
    if ls = [TextDraft.sectionEnd] then if o.current.isSome then some o.leave else none
    else
      match ls with
      | [] => none
      | title :: remarks => (sectionName? title).map fun name => o.enter name remarks

/-- Reads the blocks of a text from first to last. The notes on the notation, if there are any, are
    the first block; they are not told from other blocks by what they say. -/
def TextDraft.outline? (d : TextDraft) (hasNotes : Bool) :
    Option (Outline (List String) (List String) Nat) :=
  match hasNotes, d.blocks with
  | true, .lines remarks :: blocks =>
    blocks.foldlM TextBlock.read (Outline.note {} remarks)
  | true, _ => none
  | false, blocks => blocks.foldlM TextBlock.read {}

/-- An outline as a text shows it: notes and blurbs are comment lines. -/
def Outline.inText (o : Outline String (Option String) α) : Outline (List String) (List String) α :=
  o.map TextDraft.comment (fun blurb => blurb.elim [] TextDraft.comment) id

/-- **A text follows a sketch** behind some blocks that were read before: its other blocks read as
    the outline, and each item holds the marks of its sheet. -/
structure TextDraft.Follows (d : TextDraft) (above : List TextBlock)
    (start : Outline (List String) (List String) Nat) (k : Sketch) : Prop where
  items : d.items = k.sheets.map TextItem.ofSheet
  inSection : d.inSection = k.outline.current.isSome
  blocks : ∃ blocks, d.blocks = above ++ blocks ∧
    blocks.foldlM TextBlock.read start = some k.outline.inText

/-! ## 2. Strokes -/

namespace TextDraft

variable {d : TextDraft} {above : List TextBlock}
  {start : Outline (List String) (List String) Nat} {k : Sketch}

/-- One more block is read behind the others. -/
theorem Follows.read (h : d.Follows above start k) {b : TextBlock}
    {o : Outline (List String) (List String) Nat} (hb : b.read k.outline.inText = some o) :
    ∃ blocks, (d.add b).blocks = above ++ blocks ∧ blocks.foldlM TextBlock.read start = some o := by
  obtain ⟨blocks, hblocks, hread⟩ := h.blocks
  refine ⟨blocks ++ [b], ?_, ?_⟩
  · show d.blocks ++ [b] = _
    rw [hblocks, List.append_assoc]
  · rw [List.foldlM_append, hread]
    simp [hb]

/-- **A stroke takes a text to the next sketch.** -/
theorem Follows.step (h : d.Follows above start k) {s : Stroke} (hs : s.isInner = true) :
    (d.step s).Follows above start (s.onSketch k) := by
  cases s with
  | begin => cases hs
  | preamble text => cases hs
  | openSection name blurb =>
    refine ⟨h.items, rfl, ?_⟩
    have hread : TextBlock.read k.outline.inText
        (.lines (("// SECTION: " ++ name) :: blurb.elim [] comment)) =
          some (k.outline.enter name blurb).inText := by
      have hne : ("// SECTION: " ++ name) :: blurb.elim [] comment ≠ [sectionEnd] := fun e =>
        title_ne_sectionEnd name (List.cons.inj e).1
      rw [TextBlock.read, if_neg hne, sectionName?_title, Outline.inText, Outline.inText,
        Outline.enter_map]
      rfl
    exact h.read hread
  | leaveSection =>
    cases hc : k.outline.current with
    | none =>
      have hflag : d.inSection = false := by
        rw [h.inSection, hc]
        rfl
      have hsame : Stroke.onSketch k .leaveSection = k := by
        show Sketch.mk k.outline.leave k.sheets = k
        rw [Outline.leave_of_none hc]
      have hstep : d.step .leaveSection = d := by
        rw [TextDraft.step, hflag]
        rfl
      rw [hsame, hstep]
      exact h
    | some c =>
      have hflag : d.inSection = true := by
        rw [h.inSection, hc]
        rfl
      have hstep : d.step .leaveSection =
          { d.add (.lines [sectionEnd]) with inSection := false } := by
        rw [TextDraft.step, hflag]
        rfl
      rw [hstep]
      refine ⟨h.items, rfl, ?_⟩
      have hopen : k.outline.inText.current.isSome = true := by
        show (k.outline.current.map _).isSome = true
        rw [hc]
        rfl
      have hread : TextBlock.read k.outline.inText (.lines [sectionEnd]) =
          some k.outline.leave.inText := by
        rw [TextBlock.read, if_pos rfl, if_pos hopen, Outline.inText, Outline.inText,
          Outline.leave_map]
      exact h.read hread
  | addItem helper =>
    have hcount : d.items.length = k.sheets.length := by
      rw [h.items, List.length_map]
    refine ⟨?_, ?_, ?_⟩
    · show d.items ++ [_] = (k.sheets ++ [_]).map TextItem.ofSheet
      rw [List.map_append, h.items]
      cases helper <;> rfl
    · show d.inSection = (k.outline.add k.sheets.length).current.isSome
      have hname := congrArg Option.isSome (k.outline.current_add k.sheets.length)
      rw [Option.isSome_map, Option.isSome_map] at hname
      rw [hname, h.inSection]
    · have hread : TextBlock.read k.outline.inText (.item d.items.length) =
          some (k.outline.add k.sheets.length).inText := by
        rw [TextBlock.read, hcount, Outline.inText, Outline.inText, Outline.add_map]
        rfl
      exact h.read hread
  | write number mark =>
    refine ⟨?_, h.inSection, h.blocks⟩
    show d.items.modify number _ = (k.sheets.modify number (· ++ [mark])).map TextItem.ofSheet
    rw [h.items]
    refine List.ext_getElem? fun i => ?_
    rw [List.getElem?_modify, List.getElem?_map, List.getElem?_map, List.getElem?_modify]
    cases k.sheets[i]? with
    | none => rfl
    | some sheet =>
      by_cases hi : number = i
      · simp [hi, TextItem.ofSheet_concat]
      · simp [hi]

/-- **A run of strokes takes a text to the sketch they leave.** -/
theorem Follows.draw {strokes : List Stroke} (h : d.Follows above start k)
    (hs : ∀ s ∈ strokes, s.isInner = true) :
    ∃ d', Script.drawStrokes textEasel 0 strokes d = (d', none) ∧
      d'.Follows above start (strokes.foldl Stroke.onSketch k) := by
  induction strokes generalizing d k with
  | nil => exact ⟨d, rfl, h⟩
  | cons s strokes ih =>
    obtain ⟨d', hrun, hfollows⟩ := ih (h.step (hs s List.mem_cons_self))
      fun q hq => hs q (List.mem_cons_of_mem _ hq)
    refine ⟨d', ?_, hfollows⟩
    show Script.drawStrokes textEasel 0 strokes (d.step (s.shift 0)) = _
    rw [s.shift_zero]
    exact hrun

end TextDraft

/-! ## 3. Manuals -/

/-- The text that a run leaves. -/
def RuleSet.textDraft [PatternLanguage] (rules : RuleSet) (settings : Settings) (files : FileTree) :
    TextDraft :=
  ((rules.script settings files).perform textEasel textEasel.fresh).1

namespace Script.Draws

variable {script : Script} {notes : Option String} {inner : List Stroke}

/-- A text whose first blocks have been drawn and read. -/
theorem text_behind (h : script.Draws notes inner) {first : TextDraft} {above : List TextBlock}
    {start : Outline (List String) (List String) Nat}
    (hfirst : first.Follows above start (.begun notes))
    (hdrawn : drawStrokes textEasel 0 (strokesOf script.steps) {} =
      drawStrokes textEasel 0 inner first)
    (hread : ∀ (d : TextDraft) (blocks : List TextBlock), d.blocks = above ++ blocks →
      d.outline? notes.isSome = blocks.foldlM TextBlock.read start) :
    TextDraft.outline? (script.perform textEasel textEasel.fresh).1 notes.isSome =
        some script.sketch.outline.inText ∧
      TextDraft.items (script.perform textEasel textEasel.fresh).1 =
        script.sheets.map TextItem.ofSheet ∧
      (script.perform textEasel textEasel.fresh).2.result =
        .ok (TextDraft.toText (script.perform textEasel textEasel.fresh).1) := by
  obtain ⟨d, hrun, hfollows⟩ := hfirst.draw h.inner
  rw [← h.sketch] at hfollows
  obtain ⟨blocks, hblocks, hall⟩ := hfollows.blocks
  have hdone : drawStrokes textEasel (textEasel.itemCount textEasel.fresh)
      (strokesOf script.steps) textEasel.fresh = (d, none) := hdrawn.trans hrun
  obtain ⟨hd, hresult⟩ := perform_of_drawn h.stop hdone
  refine ⟨?_, ?_, ?_⟩
  · rw [hd, hread d blocks hblocks, hall]
  · rw [hd, hfollows.items, h.sheets]
  · rw [hresult, hd]
    rfl

/-- **The text follows the sketch**; it is always finished. -/
theorem text (h : script.Draws notes inner) :
    TextDraft.outline? (script.perform textEasel textEasel.fresh).1 notes.isSome =
        some script.sketch.outline.inText ∧
      TextDraft.items (script.perform textEasel textEasel.fresh).1 =
        script.sheets.map TextItem.ofSheet ∧
      (script.perform textEasel textEasel.fresh).2.result =
        .ok (TextDraft.toText (script.perform textEasel textEasel.fresh).1) := by
  have hstrokes := h.strokes
  cases notes with
  | none =>
    have hfirst : TextDraft.Follows {} [] {} (.begun none) := ⟨rfl, rfl, [], rfl, rfl⟩
    refine h.text_behind hfirst (by rw [hstrokes]; rfl) fun d blocks hblocks => ?_
    unfold TextDraft.outline?
    rw [hblocks]
    rfl
  | some text =>
    have hfirst : TextDraft.Follows { blocks := [.lines (TextDraft.comment text)] }
        [.lines (TextDraft.comment text)] (Outline.note {} (TextDraft.comment text))
        (.begun (some text)) := ⟨rfl, rfl, [], rfl, rfl⟩
    refine h.text_behind hfirst (by rw [hstrokes]; rfl) fun d blocks hblocks => ?_
    unfold TextDraft.outline?
    rw [hblocks]
    rfl

end Script.Draws

end GrammarManual
