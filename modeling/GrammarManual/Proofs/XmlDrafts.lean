import GrammarManual.Proofs.Sketch
import GrammarManual.Proofs.XmlSets

/-!
# Proofs/XmlDrafts: XML documents follow their sketches

* `XmlItem.ofSheet` -- the item that a sheet is written on;
* `Marker.isHeld`, `Passage.isHeld` -- texts that XML can hold; a stroke with any other text fails;
* `XmlDraft.Follows` -- an XML document has the parts of an outline, its container is the current
  chapter, and its items hold the marks of the sheets;
* `Follows.step`, `Follows.draw` -- one stroke, and a run of strokes, keep this;
* **`Script.Draws.xml`** -- a finished XML document follows the sketch of its script.
-/

namespace GrammarManual

variable {α β : Type}

/-! ## 1. Marks and parts -/

/-- Marks whose texts XML can hold. -/
def Marker.isHeld : Marker → Bool
  | .symbol text => isXmlText text
  | .string text => isXmlText text
  | .identifier name => isXmlText name
  | .other text => isXmlText text
  | .remark text => isXmlText text
  | .declaration name => isXmlText name
  | .usages names => names.all isXmlText
  | _ => true

/-- The item that a sheet is written on. -/
def XmlItem.ofSheet (sheet : Sheet) : XmlItem := sheet.foldl (fun i mark => (i.write mark).1) {}

theorem XmlItem.ofSheet_concat (sheet : Sheet) (mark : Marker) :
    XmlItem.ofSheet (sheet ++ [mark]) = ((XmlItem.ofSheet sheet).write mark).1 :=
  List.foldl_concat _ _ _ _

/-- One value of a list changed before all are read, or read and then replaced. -/
theorem map_modify_of_getElem? {as : List α} {number : Nat} {a : α} (f : α → β) (g : α → α)
    (h : as[number]? = some a) :
    (as.modify number g).map f = (as.map f).set number (f (g a)) := by
  obtain ⟨hlt, rfl⟩ := List.getElem?_eq_some_iff.mp h
  rw [List.modify_eq_set_get _ hlt, List.map_set]
  rfl

theorem mem_modify {as : List α} {number : Nat} {g : α → α} {b : α}
    (h : b ∈ as.modify number g) : b ∈ as ∨ ∃ a, as[number]? = some a ∧ b = g a := by
  obtain ⟨i, hi⟩ := List.mem_iff_getElem?.mp h
  rw [List.getElem?_modify] at hi
  obtain ⟨a, ha, rfl⟩ := Option.map_eq_some_iff.mp hi
  by_cases hn : number = i
  · subst hn
    exact .inr ⟨a, ha, if_pos rfl⟩
  · rw [if_neg hn]
    exact .inl (List.mem_of_getElem? ha)

theorem XmlElement.ofText_held {tag text : String} {body : String → XmlBody}
    (h : (XmlElement.ofText tag text body).2 = none) : isXmlText text = true := by
  unfold XmlElement.ofText at h
  split at h
  · assumption
  · cases h

theorem XmlElement.named_held {tag name : String} (h : (XmlElement.named tag name).2 = none) :
    isXmlText name = true := by
  unfold XmlElement.named at h
  split at h
  · assumption
  · cases h

theorem XmlElement.usageList_held {names : List String}
    (h : (XmlElement.usageList names).2 = none) : names.all isXmlText = true := by
  induction names with
  | nil => rfl
  | cons name names ih =>
    rw [usageList] at h
    cases herr : (XmlElement.ofText "declaration" name XmlBody.text).2 with
    | some err =>
      simp only [herr, Option.isSome_some, if_true] at h
      cases h
    | none =>
      simp only [herr, Option.isSome_none, Bool.false_eq_true, if_false] at h
      rw [List.all_cons, ofText_held herr, ih h]
      rfl

/-- What is written without an error can be held. -/
theorem XmlItem.held_of_write {i : XmlItem} {mark : Marker} (h : (i.write mark).2 = none) :
    mark.isHeld = true := by
  cases mark with
  | symbol text => exact XmlElement.ofText_held h
  | string text => exact XmlElement.ofText_held h
  | identifier name => exact XmlElement.named_held h
  | other text => exact XmlElement.ofText_held h
  | remark text => exact XmlElement.ofText_held h
  | declaration name => exact XmlElement.named_held h
  | usages names => exact XmlElement.usageList_held h
  | _ => rfl

/-- The element of a blurb. -/
def docElement (text : String) : XmlElement := .leaf "doc" [] (.ofText text)

/-- The child of the root for a passage. -/
def Passage.part : Passage String (Option String) Nat → XmlPart
  | .notes text => .set (.branch "set" [] [docElement text]) []
  | .entry number => .item number
  | .chapter c => .set (.branch "set" [("name", c.name)] (c.blurb.map docElement).toList) c.entries

/-- Passages whose texts XML can hold. -/
def Passage.isHeld : Passage String (Option String) α → Bool
  | .notes text => isXmlText text
  | .entry _ => true
  | .chapter c => isXmlText c.name && c.blurb.all isXmlText

/-- **An XML document follows a sketch**: it has the parts of the outline, new items go to the
    current chapter, and each item holds the marks of its sheet. -/
structure XmlDraft.Follows (d : XmlDraft) (k : Sketch) : Prop where
  items : d.items = k.sheets.map XmlItem.ofSheet
  parts : d.parts = k.outline.passages.map Passage.part
  container : d.container = k.outline.current.map fun _ => k.outline.before.length
  marks : ∀ sheet ∈ k.sheets, ∀ mark ∈ sheet, mark.isHeld = true
  texts : ∀ p ∈ k.outline.passages, p.isHeld = true

/-! ## 2. Strokes -/

namespace XmlDraft

variable {d d' : XmlDraft} {k : Sketch}

theorem withDoc_held {set : XmlElement} {text : String} (h : (withDoc set text).2 = none) :
    isXmlText text = true ∧ (withDoc set text).1 = set.append [] (docElement text) := by
  have hheld : isXmlText text = true := XmlElement.ofText_held h
  refine ⟨hheld, ?_⟩
  unfold withDoc XmlElement.ofText
  rw [if_pos hheld]
  rfl

/-- The set of a section, as it is begun. -/
def setElement (name : String) (blurb : Option String) : XmlElement × Option StrokeError :=
  blurb.elim (.branch "set" [("name", name)] [], none) (withDoc (.branch "set" [("name", name)] []))

theorem setElement_held {name : String} {blurb : Option String}
    (h : (setElement name blurb).2 = none) :
    blurb.all isXmlText = true ∧ (setElement name blurb).1 =
      .branch "set" [("name", name)] (blurb.map docElement).toList := by
  cases blurb with
  | none => exact ⟨rfl, rfl⟩
  | some text =>
    obtain ⟨hheld, hdoc⟩ := withDoc_held h
    exact ⟨hheld, hdoc⟩

theorem Follows.preamble (h : d.Follows k) {text : String} (hk : k.outline.current = none)
    (hstep : d.step (.preamble text) = (d', none)) :
    d'.Follows (Stroke.onSketch k (.preamble text)) := by
  have hsame : d.step (.preamble text) = (d.addSet (withDoc (.branch "set" [] []) text).1,
      (withDoc (.branch "set" [] []) text).2) := rfl
  rw [hsame] at hstep
  obtain ⟨hd, herr⟩ := Prod.mk.inj hstep
  obtain ⟨hheld, hset⟩ := withDoc_held herr
  have hbefore : k.outline.passages = k.outline.before := by
    unfold Outline.passages
    rw [hk]
    exact List.append_nil _
  have hafter : (k.outline.note text).passages = k.outline.before ++ [.notes text] := by
    unfold Outline.passages Outline.note
    rw [hk]
    exact List.append_nil _
  subst hd
  refine ⟨h.items, ?_, ?_, h.marks, fun p hp => ?_⟩
  · show d.parts ++ [_] = (k.outline.note text).passages.map Passage.part
    rw [hafter, List.map_append, h.parts, hbefore, hset]
    rfl
  · show d.container = k.outline.current.map _
    rw [h.container, hk]
    rfl
  · have hp' : p ∈ (k.outline.note text).passages := hp
    rw [hafter] at hp'
    rcases List.mem_append.mp hp' with hp' | hp'
    · exact h.texts p (by rwa [hbefore])
    · rw [List.mem_singleton.mp hp']
      exact hheld

theorem Follows.openSection (h : d.Follows k) {name : String} {blurb : Option String}
    (hstep : d.step (.openSection name blurb) = (d', none)) :
    d'.Follows (Stroke.onSketch k (.openSection name blurb)) := by
  by_cases hname : isXmlText name = true
  · have hsame : d.step (.openSection name blurb) =
        ({ d.addSet (setElement name blurb).1 with container := some d.parts.length },
          (setElement name blurb).2) := by
      rw [step, if_pos hname]
      rfl
    rw [hsame] at hstep
    obtain ⟨hd, herr⟩ := Prod.mk.inj hstep
    obtain ⟨hblurb, hset⟩ := setElement_held herr
    have hafter : (k.outline.enter name blurb).passages =
        k.outline.passages ++ [.chapter ⟨name, blurb, []⟩] := rfl
    subst hd
    refine ⟨h.items, ?_, ?_, h.marks, fun p hp => ?_⟩
    · show d.parts ++ [.set (setElement name blurb).1 []] =
        (k.outline.enter name blurb).passages.map Passage.part
      rw [hafter, List.map_append, h.parts, hset]
      rfl
    · show some d.parts.length = some k.outline.passages.length
      rw [h.parts, List.length_map]
    · have hp' : p ∈ (k.outline.enter name blurb).passages := hp
      rw [hafter] at hp'
      rcases List.mem_append.mp hp' with hp' | hp'
      · exact h.texts p hp'
      · rw [List.mem_singleton.mp hp']
        show (isXmlText name && blurb.all isXmlText) = true
        rw [hname, hblurb]
        rfl
  · rw [step, if_neg hname] at hstep
    cases hstep

theorem Follows.addItem (h : d.Follows k) (helper : Bool) :
    (d.step (.addItem helper)).1.Follows (Stroke.onSketch k (.addItem helper)) := by
  have hitems : ∀ item : XmlItem, item = XmlItem.ofSheet (if helper then [.remark "helper"] else [])
      → d.items ++ [item] = (Stroke.onSheets k.sheets (.addItem helper)).map XmlItem.ofSheet := by
    intro item hitem
    rw [Stroke.onSheets, List.map_append, h.items, hitem]
    rfl
  have hitem : (if helper then ((({} : XmlItem)).write (.remark "helper")).1 else {}) =
      XmlItem.ofSheet (if helper then [.remark "helper"] else []) := by
    cases helper <;> rfl
  have hmarks : ∀ sheet ∈ Stroke.onSheets k.sheets (.addItem helper), ∀ mark ∈ sheet,
      mark.isHeld = true := by
    intro sheet hsheet mark hmark
    rcases List.mem_append.mp hsheet with hsheet | hsheet
    · exact h.marks sheet hsheet mark hmark
    · rw [List.mem_singleton.mp hsheet] at hmark
      cases helper with
      | false => cases hmark
      | true =>
        rw [List.mem_singleton.mp hmark]
        show isXmlText "helper" = true
        decide
  have hcount : d.items.length = k.sheets.length := by
    rw [h.items, List.length_map]
  have hcontainer := h.container
  have hparts := h.parts
  have htexts := h.texts
  rw [step, hcontainer]
  cases hc : k.outline.current with
  | none =>
    have hafter : (k.outline.add k.sheets.length).passages =
        k.outline.passages ++ [.entry k.sheets.length] := by
      unfold Outline.add Outline.passages
      simp [hc]
    refine ⟨hitems _ hitem, ?_, ?_, hmarks, fun p hp => ?_⟩
    · show d.parts ++ [.item d.items.length] = (k.outline.add _).passages.map Passage.part
      rw [hafter, List.map_append, hparts, hcount]
      rfl
    · show none = (k.outline.add k.sheets.length).current.map _
      unfold Outline.add
      simp [hc]
    · have hp' : p ∈ (k.outline.add k.sheets.length).passages := hp
      rw [hafter] at hp'
      rcases List.mem_append.mp hp' with hp' | hp'
      · exact htexts p hp'
      · rw [List.mem_singleton.mp hp']
        rfl
  | some c =>
    have hadd : k.outline.add k.sheets.length =
        { k.outline with current := some { c with entries := c.entries ++ [k.sheets.length] } } := by
      unfold Outline.add
      rw [hc]
    have hpassages : k.outline.passages = k.outline.before ++ [.chapter c] := by
      unfold Outline.passages
      rw [hc]
      rfl
    refine ⟨hitems _ hitem, ?_, ?_, hmarks, fun p hp => ?_⟩
    · show d.parts.modify k.outline.before.length (XmlPart.addItem d.items.length) =
        (k.outline.add _).passages.map Passage.part
      have hlength : k.outline.before.length = (k.outline.before.map Passage.part).length := by
        rw [List.length_map]
      rw [hadd, hparts, hpassages, List.map_append, hlength, hcount]
      show (_ ++ [_]).modify _ _ = _
      rw [modify_last]
      unfold Outline.passages
      rw [List.map_append]
      rfl
    · show some k.outline.before.length = (k.outline.add k.sheets.length).current.map
        fun _ => (k.outline.add k.sheets.length).before.length
      rw [hadd]
      rfl
    · have hp' : p ∈ (k.outline.add k.sheets.length).passages := hp
      rw [hadd] at hp'
      rcases List.mem_append.mp hp' with hp' | hp'
      · exact htexts p (by rw [hpassages]; exact List.mem_append_left _ hp')
      · rw [List.mem_singleton.mp hp']
        refine htexts (.chapter c) ?_
        rw [hpassages]
        exact List.mem_append_right _ List.mem_cons_self

theorem Follows.write (h : d.Follows k) {number : Nat} {mark : Marker}
    (hstep : d.step (.write number mark) = (d', none)) :
    d'.Follows (Stroke.onSketch k (.write number mark)) := by
  cases hitem : d.items[number]? with
  | none =>
    rw [step, hitem] at hstep
    cases hstep
    have hsame : Stroke.onSheets k.sheets (.write number mark) = k.sheets := by
      refine List.modify_eq_self ?_
      have hlength := List.getElem?_eq_none_iff.mp hitem
      rwa [h.items, List.length_map] at hlength
    have hsketch : Stroke.onSketch k (.write number mark) = k := by
      unfold Stroke.onSketch
      rw [hsame]
    rw [hsketch]
    exact h
  | some item =>
    have hsame : d.step (.write number mark) =
        ({ d with items := d.items.set number (item.write mark).1 }, (item.write mark).2) := by
      rw [step, hitem]
    rw [hsame] at hstep
    obtain ⟨hd, herr⟩ := Prod.mk.inj hstep
    subst hd
    have hheld := XmlItem.held_of_write herr
    rw [h.items, List.getElem?_map, Option.map_eq_some_iff] at hitem
    obtain ⟨sheet, hsheet, rfl⟩ := hitem
    refine ⟨?_, h.parts, h.container, fun sheet' hsheet' mark' hmark' => ?_, h.texts⟩
    · show d.items.set number _ = (k.sheets.modify number (· ++ [mark])).map XmlItem.ofSheet
      rw [h.items, map_modify_of_getElem? XmlItem.ofSheet (· ++ [mark]) hsheet,
        XmlItem.ofSheet_concat]
    · rcases mem_modify hsheet' with hold | ⟨other, hother, rfl⟩
      · exact h.marks sheet' hold mark' hmark'
      · rcases List.mem_append.mp hmark' with hmark' | hmark'
        · exact h.marks other (List.mem_of_getElem? hother) mark' hmark'
        · rw [List.mem_singleton.mp hmark']
          exact hheld

/-- **A stroke that succeeds takes an XML document to the next sketch.** -/
theorem Follows.step (h : d.Follows k) {s : Stroke} (hs : s.isInner = true)
    (hstep : d.step s = (d', none)) : d'.Follows (s.onSketch k) := by
  cases s with
  | begin => cases hs
  | preamble text => cases hs
  | openSection name blurb => exact h.openSection hstep
  | leaveSection =>
    cases hstep
    refine ⟨h.items, ?_, rfl, h.marks, fun p hp => ?_⟩
    · show d.parts = k.outline.leave.passages.map Passage.part
      rw [h.parts]
      exact congrArg (List.map Passage.part) (List.append_nil _).symm
    · have hp' : p ∈ k.outline.leave.passages := hp
      have hsame : k.outline.leave.passages = k.outline.passages := List.append_nil _
      rw [hsame] at hp'
      exact h.texts p hp'
  | addItem helper =>
    have hadd := h.addItem helper
    rw [hstep] at hadd
    exact hadd
  | write number mark => exact h.write hstep

/-- **A run of strokes takes an XML document to the sketch they leave.** -/
theorem Follows.draw {strokes : List Stroke} (h : d.Follows k)
    (hs : ∀ s ∈ strokes, s.isInner = true)
    (hrun : Script.drawStrokes xmlEasel 0 strokes d = (d', none)) :
    d'.Follows (strokes.foldl Stroke.onSketch k) := by
  induction strokes generalizing d k with
  | nil =>
    cases hrun
    exact h
  | cons s strokes ih =>
    obtain ⟨next, hstep, hrest⟩ := Script.drawStrokes_cons hrun
    rw [s.shift_zero] at hstep
    have hnext := h.step (hs s List.mem_cons_self) hstep
    exact ih hnext (fun q hq => hs q (List.mem_cons_of_mem _ hq)) hrest

end XmlDraft

/-! ## 3. Manuals -/

/-- The XML document that a run leaves. -/
def RuleSet.xmlDraft [PatternLanguage] (rules : RuleSet) (settings : Settings) (files : FileTree) :
    XmlDraft :=
  ((rules.script settings files).perform xmlEasel xmlEasel.fresh).1

namespace Script.Draws

variable {script : Script} {notes : Option String} {inner : List Stroke}

/-- **The XML document follows the sketch**, if it is finished. -/
theorem xml (h : script.Draws notes inner) {document : String}
    (hdone : (script.perform xmlEasel xmlEasel.fresh).2.result = .ok document) :
    XmlDraft.Follows (script.perform xmlEasel xmlEasel.fresh).1 script.sketch ∧
      document = XmlElement.document
        (XmlDraft.tree (script.perform xmlEasel xmlEasel.fresh).1) := by
  obtain ⟨hrun, hdocument⟩ := perform_drawn hdone
  refine ⟨?_, hdocument⟩
  rw [h.strokes] at hrun
  obtain ⟨begun, hbegin, hrest⟩ := drawStrokes_cons hrun
  have hfresh : XmlDraft.Follows {} {} := ⟨rfl, rfl, rfl, nofun, nofun⟩
  cases hbegin
  rw [h.sketch]
  cases notes with
  | none => exact XmlDraft.Follows.draw hfresh h.inner hrest
  | some text =>
    obtain ⟨noted, hnotes, hinner⟩ := drawStrokes_cons hrest
    exact XmlDraft.Follows.draw (hfresh.preamble rfl hnotes) h.inner hinner

end Script.Draws

end GrammarManual
