import GrammarManual.Proofs.Entries
import GrammarManual.Proofs.Verbatim
import GrammarManual.Proofs.XmlPrinted

/-!
# Proofs/XmlManual: XML manuals are read back

* `Sketch.Tells` -- the passages of a sketch have the blurbs for their names;
* `Marker.sound_element`, `Entry.sound_element`, `Passage.sound_element` -- elements of finished
  documents can be printed;
* `XmlNode.IsManual` -- the shape of a manual, and `isManual_node`: catalogues have it;
* **`xml_read_back`** -- a reader gives back the tree of a finished XML document of loaded grammars,
  with every text that was written.
-/

namespace GrammarManual

/-! ## 1. Blurbs of a sketch -/

section Blurbs

variable {blurbOf : String → Option String}

/-- Whether a passage has the blurb for its name, notes the one for the notation. -/
def Passage.Tells {α : Type} (blurbOf : String → Option String) :
    Passage String (Option String) α → Prop
  | .notes text => blurbOf Script.Source.preambleName = some text
  | .entry _ => True
  | .chapter c => c.blurb = blurbOf c.name

/-- Whether the passages of a sketch have their blurbs. -/
def Sketch.Tells (blurbOf : String → Option String) (k : Sketch) : Prop :=
  ∀ p ∈ k.outline.passages, p.Tells blurbOf

/-- **An inner stroke keeps blurbs as they are**; an opened section comes with its own. -/
theorem Sketch.Tells.step {k : Sketch} (h : k.Tells blurbOf) {s : Stroke}
    (hs : s.isInner = true)
    (hopen : ∀ name blurb, s = .openSection name blurb → blurb = blurbOf name) :
    (s.onSketch k).Tells blurbOf := by
  have hall := List.forall_mem_append.mp h
  cases s with
  | begin => cases hs
  | preamble text => cases hs
  | openSection name blurb =>
    exact List.forall_mem_append.mpr ⟨h, List.forall_mem_singleton.mpr (hopen name blurb rfl)⟩
  | leaveSection => exact List.forall_mem_append.mpr ⟨h, nofun⟩
  | addItem helper =>
    show ∀ p ∈ (k.outline.add k.sheets.length).passages, p.Tells blurbOf
    unfold Outline.add
    split
    · rename_i c hc
      rw [hc] at hall
      have hblurb : Passage.Tells blurbOf (.chapter c) := hall.2 _ List.mem_cons_self
      exact List.forall_mem_append.mpr ⟨hall.1, List.forall_mem_singleton.mpr hblurb⟩
    · refine List.forall_mem_append.mpr ⟨List.forall_mem_append.mpr ⟨hall.1, ?_⟩, hall.2⟩
      exact List.forall_mem_singleton.mpr trivial
  | write number mark => exact h

theorem Sketch.Tells.run {k : Sketch} (h : k.Tells blurbOf) {strokes : List Stroke}
    (hs : ∀ s ∈ strokes, s.isInner = true)
    (hopen : ∀ name blurb, .openSection name blurb ∈ strokes → blurb = blurbOf name) :
    (strokes.foldl Stroke.onSketch k).Tells blurbOf := by
  induction strokes generalizing k with
  | nil => exact h
  | cons s strokes ih =>
    have hfirst := h.step (hs s List.mem_cons_self) fun name blurb heq =>
      hopen name blurb (heq ▸ List.mem_cons_self)
    exact ih hfirst (fun q hq => hs q (List.mem_cons_of_mem _ hq))
      fun name blurb hq => hopen name blurb (List.mem_cons_of_mem _ hq)

/-- The passages of a whole document have their blurbs. -/
theorem Script.Draws.tells {script : Script} {inner : List Stroke}
    (h : script.Draws (blurbOf Source.preambleName) inner)
    (hopen : ∀ name blurb, .openSection name blurb ∈ inner → blurb = blurbOf name) :
    script.sketch.Tells blurbOf := by
  rw [h.sketch]
  refine Sketch.Tells.run ?_ h.inner hopen
  cases hnotes : blurbOf Source.preambleName with
  | none => exact fun p hp => absurd hp List.not_mem_nil
  | some text => exact List.forall_mem_singleton.mpr hnotes

end Blurbs

/-! ## 2. Elements that can be printed -/

theorem soundAttributes_nil : XmlReader.SoundAttributes [] := ⟨nofun, nofun, List.nodup_nil⟩

theorem soundAttributes_name {name : String} (h : isXmlText name = true) :
    XmlReader.SoundAttributes [("name", name)] where
  names := List.forall_mem_singleton.mpr (by decide : XmlReader.isName "name" = true)
  values := List.forall_mem_singleton.mpr h
  distinct := List.nodup_singleton _

theorem XmlBody.sound_ofText {s : String} (h : isXmlText s = true) (hreturn : '\r' ∉ s.toList) :
    (XmlBody.ofText s).Sound := by
  unfold XmlBody.ofText
  split
  · exact .text h
  · rename_i hends
    exact .verbatim h hreturn (Bool.eq_false_iff.mpr hends)

/-- Whether a mark can be printed: its texts can be held, and it writes no carriage return as it
    stands. -/
structure Marker.Sound (mark : Marker) : Prop where
  held : mark.isHeld = true
  verbatim : ∀ text, mark.verbatim? = some text → '\r' ∉ text.toList

/-- Marks that are not written verbatim need only be held. -/
theorem Marker.Sound.plain {mark : Marker} (hheld : mark.isHeld = true)
    (hplain : mark.verbatim? = none) : mark.Sound where
  held := hheld
  verbatim := fun text htext => by
    rw [hplain] at htext
    cases htext

theorem Marker.sound_element {mark : Marker} (hleaf : mark.isLeaf = true) (h : mark.Sound) :
    mark.element.Sound := by
  have hheld := h.held
  cases mark with
  | whitespace => exact .leaf (by decide) soundAttributes_nil .empty
  | lineBreak => exact .leaf (by decide) soundAttributes_nil .empty
  | symbol text =>
    exact .leaf (by decide) soundAttributes_nil (XmlBody.sound_ofText hheld (h.verbatim text rfl))
  | string text =>
    exact .leaf (by decide) soundAttributes_nil (XmlBody.sound_ofText hheld (h.verbatim text rfl))
  | identifier name => exact .leaf (by decide) (soundAttributes_name hheld) .empty
  | other text => exact .leaf (by decide) soundAttributes_nil (.text hheld)
  | remark text => exact .leaf (by decide) soundAttributes_nil (.text hheld)
  | declaration name => exact .leaf (by decide) (soundAttributes_name hheld) .empty
  | usages names => cases hleaf
  | description => cases hleaf
  | endDescription => cases hleaf

theorem Marker.sound_usages {names : List String} (h : names.all isXmlText = true) :
    (Marker.usages names).element.Sound := by
  refine .branch (by decide) soundAttributes_nil fun e he => ?_
  obtain ⟨name, hname, rfl⟩ := List.mem_map.mp he
  exact .leaf (by decide) soundAttributes_nil (.text (List.all_eq_true.mp h name hname))

namespace Entry

/-- **Entries that can be printed**: their sheets can be held, and their bodies write no carriage
    return as it stands. -/
structure Sound (e : Entry) : Prop where
  laidOut : e.IsLaidOut
  held : ∀ mark ∈ e.sheet, mark.isHeld = true
  verbatim : ∀ mark ∈ e.body, ∀ text, mark.verbatim? = some text → '\r' ∉ text.toList

theorem sound_mark {e : Entry} (h : e.Sound) {mark : Marker} (hm : mark ∈ e.marks) :
    mark.Sound := by
  refine ⟨h.held mark ?_, ?_⟩
  · unfold sheet
    simp [hm]
  · simp only [marks, Layout.newLine, List.mem_append, List.mem_cons, List.mem_replicate,
      List.not_mem_nil, or_false] at hm
    rcases hm with ((hstart | hbody) | hbreak) | rfl
    · rcases hstart with rfl | rfl | rfl | rfl
      · nofun
      · nofun
      · rintro _ ⟨⟩
        decide
      · nofun
    · exact h.verbatim mark hbody
    · rcases hbreak with rfl | ⟨-, rfl⟩ <;> nofun
    · nofun

theorem sound_element {e : Entry} (h : e.Sound) : e.element.Sound := by
  have hheld := h.held
  unfold sheet at hheld
  obtain ⟨hhead, hrest⟩ := List.forall_mem_append.mp hheld
  obtain ⟨-, hend⟩ := List.forall_mem_append.mp (List.forall_mem_cons.mp hrest).2
  obtain ⟨hremarks, hname⟩ := List.forall_mem_append.mp hhead
  refine .branch (by decide) soundAttributes_nil (List.forall_mem_append.mpr
    ⟨List.forall_mem_append.mpr ⟨fun x hx => ?_, fun x hx => ?_⟩, fun x hx => ?_⟩)
  · obtain ⟨text, htext, rfl⟩ := List.mem_map.mp hx
    exact Marker.sound_element rfl (.plain (hremarks _ (List.mem_map_of_mem htext)) rfl)
  · simp only [List.mem_cons, List.not_mem_nil, or_false] at hx
    rcases hx with rfl | rfl
    · exact Marker.sound_element rfl (.plain (hname _ List.mem_cons_self) rfl)
    · refine .branch (by decide) soundAttributes_nil fun x hx => ?_
      obtain ⟨mark, hm, rfl⟩ := List.mem_map.mp hx
      exact Marker.sound_element (isLeaf_of_mem_marks h.laidOut hm) (sound_mark h hm)
  · by_cases hnone : e.usages = []
    · rw [if_pos hnone] at hx
      cases hx
    · rw [if_neg hnone] at hx hend
      rw [List.mem_singleton.mp hx]
      exact Marker.sound_usages (hend _ (List.mem_cons_of_mem _ List.mem_cons_self))

end Entry

theorem sound_docElement {text : String} (h : isXmlText text = true)
    (hreturn : '\r' ∉ text.toList) : (docElement text).Sound :=
  .leaf (by decide) soundAttributes_nil (XmlBody.sound_ofText h hreturn)

theorem Passage.sound_element {p : Passage String (Option String) Entry} (hheld : p.isHeld = true)
    {blurbOf : String → Option String} (hblurb : p.Tells blurbOf)
    (hreturn : ∀ name text, blurbOf name = some text → '\r' ∉ text.toList)
    (h : ∀ e ∈ p.entries, e.Sound) : p.element.Sound := by
  cases p with
  | notes text =>
    exact .branch (by decide) soundAttributes_nil
      (List.forall_mem_singleton.mpr (sound_docElement hheld (hreturn _ _ hblurb)))
  | entry e => exact Entry.sound_element (h e List.mem_cons_self)
  | chapter c =>
    have hboth := Bool.and_eq_true_iff.mp hheld
    refine .branch (by decide) (soundAttributes_name hboth.1)
      (List.forall_mem_append.mpr ⟨fun x hx => ?_, fun x hx => ?_⟩)
    · obtain ⟨text, htext, rfl⟩ := Option.map_eq_some_iff.mp (Option.mem_toList.mp hx)
      have htextHeld := hboth.2
      rw [htext] at htextHeld
      exact sound_docElement htextHeld (hreturn _ _ (hblurb.symm.trans htext))
    · obtain ⟨e, he, rfl⟩ := List.mem_map.mp hx
      exact Entry.sound_element (h e he)

theorem Outline.isHeld_fill {o : Outline String (Option String) Nat}
    (h : ∀ p ∈ o.passages, p.isHeld = true) (entries : List Entry) :
    ∀ p ∈ o.fill entries, p.isHeld = true := by
  intro p hp
  obtain ⟨q, hq, rfl⟩ := List.mem_map.mp hp
  cases q <;> exact h _ hq

theorem Sketch.Tells.fill {blurbOf : String → Option String} {k : Sketch} (h : k.Tells blurbOf)
    (entries : List Entry) : ∀ p ∈ k.outline.fill entries, p.Tells blurbOf := by
  intro p hp
  obtain ⟨q, hq, rfl⟩ := List.mem_map.mp hp
  cases q <;> exact h _ hq

theorem Entry.sound_default : (default : Entry).Sound := by
  refine ⟨nofun, ?_, nofun⟩
  decide

/-- **The tree of a catalogue can be printed**, if its texts can be held and no blurb has a carriage
    return. -/
theorem Catalogue.sound_element {c : Catalogue} {blurbOf : String → Option String}
    (hheld : ∀ p ∈ c, p.isHeld = true) (htells : ∀ p ∈ c, p.Tells blurbOf)
    (hreturn : ∀ name text, blurbOf name = some text → '\r' ∉ text.toList)
    (h : ∀ p ∈ c, ∀ e ∈ p.entries, e.Sound) : (Catalogue.element c).Sound := by
  refine .branch (by decide) soundAttributes_nil fun x hx => ?_
  obtain ⟨p, hp, rfl⟩ := List.mem_map.mp hx
  exact Passage.sound_element (hheld p hp) (htells p hp) hreturn (h p hp)

/-! ## 3. The shape of a manual -/

namespace XmlNode

/-- An element that holds a text alone. -/
def leaf (tag text : String) : XmlNode := .element tag [] (addText text.toList [])

/-- An element with a name. -/
def named (tag name : String) : XmlNode := .element tag [("name", name)] []

/-- An element that holds nothing. -/
def blank (tag : String) : XmlNode := .element tag [] []

/-- The marks of a rule body. -/
inductive IsMark : XmlNode → Prop where
  | whitespace : IsMark (blank "whitespace")
  | lineBreak : IsMark (blank "crlf")
  | symbol (text : String) : IsMark (leaf "symbol" text)
  | string (text : String) : IsMark (leaf "string" text)
  | identifier (name : String) : IsMark (named "identifier" name)

/-- A description: a body behind a colon, and a semicolon below it. -/
def IsDescription (x : XmlNode) : Prop :=
  ∃ body, (∀ mark ∈ body, IsMark mark) ∧ x = .element "description" []
    ([blank "whitespace", blank "whitespace", leaf "symbol" ":", blank "whitespace"] ++ body ++
      [blank "crlf", blank "whitespace", blank "whitespace", leaf "other" ";"])

/-- An item: annotations, a name, a description and, if there are any, usages. -/
def IsItem (x : XmlNode) : Prop :=
  ∃ (annotations : List String) (name : String) (description : XmlNode) (usages : List String),
    IsDescription description ∧ x = .element "item" []
      (annotations.map (leaf "annotation") ++ [named "declaration" name, description] ++
        if usages = [] then [] else [.element "usages" [] (usages.map (leaf "declaration"))])

/-- A set: a name and a blurb, if it has one, and items. -/
def IsSet (x : XmlNode) : Prop :=
  ∃ (name blurb : Option String) (items : List XmlNode), (∀ i ∈ items, IsItem i) ∧
    x = .element "set" (name.map fun name => ("name", name)).toList
      ((blurb.map (leaf "doc")).toList ++ items)

/-- **A manual**: sets and items. -/
def IsManual (x : XmlNode) : Prop :=
  ∃ parts, (∀ p ∈ parts, IsSet p ∨ IsItem p) ∧ x = .element "tokens" [] parts

end XmlNode

theorem XmlElement.nodes_eq_map (es : List XmlElement) : XmlElement.nodes es = es.map node := by
  induction es with
  | nil => rfl
  | cons e es ih => rw [nodes, ih, List.map_cons]

theorem node_ofText (tag text : String) :
    (XmlElement.leaf tag [] (.ofText text)).node = XmlNode.leaf tag text := by
  rw [XmlElement.node, XmlBody.content_ofText]
  rfl

theorem Marker.isMark_node {mark : Marker} (h : mark.isBody = true) : mark.element.node.IsMark := by
  cases mark with
  | whitespace => exact .whitespace
  | lineBreak => exact .lineBreak
  | symbol text =>
    show (XmlElement.leaf "symbol" [] (.ofText text)).node.IsMark
    rw [node_ofText]
    exact .symbol text
  | string text =>
    show (XmlElement.leaf "string" [] (.ofText text)).node.IsMark
    rw [node_ofText]
    exact .string text
  | identifier name => exact .identifier name
  | _ => cases h

theorem Entry.isDescription_node {e : Entry} (h : e.IsLaidOut) :
    (XmlElement.branch "description" [] (e.marks.map Marker.element)).node.IsDescription := by
  refine ⟨e.body.map fun mark => mark.element.node, fun x hx => ?_, ?_⟩
  · obtain ⟨mark, hm, rfl⟩ := List.mem_map.mp hx
    exact Marker.isMark_node (h mark hm)
  · have hblank : Marker.whitespace.element.node = XmlNode.blank "whitespace" := rfl
    have hbreak : Marker.lineBreak.element.node = XmlNode.blank "crlf" := rfl
    have hcolon : (Marker.symbol ":").element.node = XmlNode.leaf "symbol" ":" := node_ofText _ _
    have hend : (Marker.other ";").element.node = XmlNode.leaf "other" ";" := by
      rw [Marker.element, XmlElement.node]
      rfl
    have hindent : Layout.newLine Layout.alternativeIndent =
        [.lineBreak, .whitespace, .whitespace] := rfl
    rw [XmlElement.node, XmlElement.nodes_eq_map, List.map_map, Entry.marks, hindent]
    simp only [List.map_append, List.map_cons, List.map_nil, hblank, hbreak,
      hcolon, hend, List.append_assoc, List.cons_append, List.nil_append, Function.comp_def]

theorem Entry.isItem_node {e : Entry} (h : e.IsLaidOut) : e.element.node.IsItem := by
  refine ⟨e.annotations, e.name, _, e.usages, Entry.isDescription_node h, ?_⟩
  have husages : (if e.usages = [] then [] else [(Marker.usages e.usages).element]).map
        XmlElement.node =
      if e.usages = [] then [] else
        [XmlNode.element "usages" [] (e.usages.map (XmlNode.leaf "declaration"))] := by
    by_cases hnone : e.usages = []
    · rw [if_pos hnone, if_pos hnone]
      rfl
    · rw [if_neg hnone, if_neg hnone, List.map_singleton, Marker.element, XmlElement.node,
        XmlElement.nodes_eq_map, List.map_map]
      rfl
  have hhead : e.head.map XmlElement.node = e.annotations.map (XmlNode.leaf "annotation") ++
      [XmlNode.named "declaration" e.name,
        (XmlElement.branch "description" [] (e.marks.map Marker.element)).node] := by
    rw [Entry.head, List.map_append, List.map_map]
    rfl
  rw [Entry.element, XmlElement.node, XmlElement.nodes_eq_map, List.map_append, hhead, husages]

theorem Passage.isPart_node {p : Passage String (Option String) Entry}
    (h : ∀ e ∈ p.entries, e.IsLaidOut) : p.element.node.IsSet ∨ p.element.node.IsItem := by
  cases p with
  | notes text =>
    refine .inl ⟨none, some text, [], nofun, ?_⟩
    show XmlNode.element "set" [] [(docElement text).node] = _
    rw [docElement, node_ofText]
    rfl
  | entry e => exact .inr (Entry.isItem_node (h e List.mem_cons_self))
  | chapter c =>
    refine .inl ⟨some c.name, c.blurb, c.entries.map fun e => e.element.node, fun x hx => ?_, ?_⟩
    · obtain ⟨e, he, rfl⟩ := List.mem_map.mp hx
      exact Entry.isItem_node (h e he)
    · show (XmlElement.branch _ _ _).node = _
      rw [XmlElement.node, XmlElement.nodes_eq_map, List.map_append, List.map_map]
      cases c.blurb with
      | none => rfl
      | some text =>
        show XmlNode.element _ _ ((docElement text).node :: _) = _
        rw [docElement, node_ofText]
        rfl

/-- **A catalogue is read as a manual.** -/
theorem Catalogue.isManual_node {c : Catalogue} (h : ∀ p ∈ c, ∀ e ∈ p.entries, e.IsLaidOut) :
    (Catalogue.element c).node.IsManual := by
  refine ⟨c.map fun p => p.element.node, fun x hx => ?_, ?_⟩
  · obtain ⟨p, hp, rfl⟩ := List.mem_map.mp hx
    exact Passage.isPart_node (h p hp)
  · rw [Catalogue.element, XmlElement.node, XmlElement.nodes_eq_map, List.map_map]
    rfl

/-! ## 4. Finished manuals -/

/-- **The entries of a manual of loaded grammars can be printed**, once it is finished. -/
theorem Script.Source.sound_entries {s : Source} {files : FileTree} {parserPath : Path}
    {lexerPath : Option Path} {lexerItems parserItems : List Item} {m : UsageMap Nat}
    (hload : (RuleSet.load files parserPath lexerPath).result = .ok s.rules)
    (h : Survey s lexerItems parserItems m)
    (hheld : ∀ e ∈ s.entries (lexerItems ++ parserItems) m, ∀ mark ∈ e.sheet, mark.isHeld = true) :
    ∀ e ∈ s.entries (lexerItems ++ parserItems) m, e.Sound := by
  intro e he
  refine ⟨s.isLaidOut_entries _ m e he, hheld e he, ?_⟩
  obtain ⟨i, hi, blocks, rfl⟩ := exists_of_mem_entries he
  rcases List.mem_append.mp hi with hi | hi
  · rw [h.lexer] at hi
    obtain ⟨r, hr, rfl⟩ := List.mem_map.mp hi
    have hr' : r ∈ (s.rules.table .lexer).rules := (List.mem_filter.mp hr).1
    exact writes_of_load hload hr'
  · rw [h.parser] at hi
    obtain ⟨r, hr, rfl⟩ := List.mem_map.mp hi
    have hr' : r ∈ (s.rules.table .parser).rules := hr
    exact writes_of_load hload hr'

open Script in
/-- **The tree of a finished manual of loaded grammars** is the element of a catalogue: of entries
    that are laid out, with blurbs as they lie in the files. The document is that tree printed, and
    it can be printed. -/
theorem RuleSet.xml_catalogue [PatternLanguage] {files docs : FileTree} {parserPath : Path}
    {lexerPath : Option Path} {rules : RuleSet} {settings : Settings} {document : String}
    (hload : (RuleSet.load files parserPath lexerPath).result = .ok rules)
    (h : (rules.manual .xml settings docs).result = .ok document) :
    ∃ (s : Source) (entries : List Entry) (c : Catalogue),
      s.rules = rules ∧ s.settings = settings ∧ s.files = docs ∧
      (rules.script settings docs).sheets = entries.map Entry.sheet ∧
      c = (rules.script settings docs).sketch.outline.fill entries ∧
      (∀ p ∈ c, p.Tells s.blurbOf) ∧ (∀ p ∈ c, ∀ e ∈ p.entries, e.IsLaidOut) ∧
      (rules.xmlDraft settings docs).tree = c.element ∧
      document = c.element.document ∧ c.element.Sound := by
  obtain ⟨s, rfl, rfl, rfl, -, lexerItems, parserItems, m, inner, hwalks, hdraws, hopen, hsheets⟩ :=
    RuleSet.script_draws (perform_ok h).1
  obtain ⟨-, -, hnumbers⟩ := hdraws.placed
  obtain ⟨hxml, hdocument⟩ := hdraws.xml h
  have htells := hdraws.tells hopen
  have hlaid := s.isLaidOut_entries (lexerItems ++ parserItems) m
  rw [hwalks.survey.sheets_eq] at hsheets
  rw [hsheets, List.length_map] at hnumbers
  have hsketch := hdraws.sheets.trans hsheets
  -- the tree is that of the entries; every mark of them was held, or the run had stopped there
  have htree : (s.rules.xmlDraft s.settings s.files).tree = _ :=
    xml_tree hxml hsketch hlaid hnumbers
  have hheld : ∀ e ∈ s.entries (lexerItems ++ parserItems) m, ∀ mark ∈ e.sheet,
      mark.isHeld = true := fun e he =>
    hxml.marks e.sheet (hsketch ▸ List.mem_map_of_mem he)
  -- what stands verbatim is quoted from files, which hold no carriage return
  have hentries := s.sound_entries hload hwalks.survey hheld
  have hsound := Catalogue.sound_element (Outline.isHeld_fill hxml.texts _) (htells.fill _)
    (fun _ _ => s.notMem_blurbOf) (Outline.forall_fill Entry.sound_default hentries)
  exact ⟨s, _, _, rfl, rfl, rfl, hsheets, rfl, htells.fill _, Outline.forall_fill nofun hlaid,
    htree, hdocument.trans (congrArg XmlElement.document htree), hsound⟩

open Script in
/-- **XML manuals of loaded grammars are read back.** A reader of a finished document gives the tree
    that was built: the element of a catalogue, which has the marks that were written of each item
    and the blurbs as they lie in the files. The tree has the shape of a manual. -/
theorem xml_read_back [PatternLanguage] {files docs : FileTree} {parserPath : Path}
    {lexerPath : Option Path} {rules : RuleSet} {settings : Settings} {document : String}
    (hload : (RuleSet.load files parserPath lexerPath).result = .ok rules)
    (h : (rules.manual .xml settings docs).result = .ok document) :
    ∃ (s : Source) (entries : List Entry) (c : Catalogue) (x : XmlNode),
      s.rules = rules ∧ s.settings = settings ∧ s.files = docs ∧
      (rules.script settings docs).sheets = entries.map Entry.sheet ∧
      c = (rules.script settings docs).sketch.outline.fill entries ∧
      (∀ p ∈ c, p.Tells s.blurbOf) ∧
      (rules.xmlDraft settings docs).tree = c.element ∧
      document = c.element.document ∧
      XmlReader.read? document = some x ∧ x.strip = c.element.node ∧ x.strip.IsManual := by
  obtain ⟨s, entries, c, hrules, hsettings, hfiles, hsheets, hc, htells, hlaid, htree, hprinted,
    hsound⟩ := RuleSet.xml_catalogue hload h
  obtain ⟨x, hread, hstrip⟩ := XmlReader.read_document hsound
  refine ⟨s, entries, c, x, hrules, hsettings, hfiles, hsheets, hc, htells, htree, hprinted, ?_,
    hstrip, ?_⟩
  · rw [hprinted]
    exact hread
  · rw [hstrip]
    exact Catalogue.isManual_node hlaid

/-- A rule whose literals look like markup, in a section. -/
def markupGrammar : FileTree :=
  .ofGrammar "grammar T;\n\n// SECTION: One\n\nr: '<&' QUOTE ']]>' ;\nQUOTE: [\" ] ;\n"

/-- A blurb for that section that ends in a blank. -/
def markupDocs : FileTree where
  entries := [(["docs", "One.txt"], .file ("<b> & ]]> ".toList.map fun c => UInt8.ofNat c.toNat))]

theorem xml_read_back_markup :
    ∃ (rules : RuleSet) (document : String) (c : Catalogue) (x : XmlNode),
    (RuleSet.load markupGrammar grammarPath none).result = .ok rules ∧
      (rules.manual .xml {} markupDocs).result = .ok document ∧
      (rules.xmlDraft {} markupDocs).tree = c.element ∧
      XmlReader.read? document = some x ∧ x.strip = c.element.node ∧ x.strip.IsManual := by
  have hdone : ((RuleSet.load markupGrammar grammarPath none).result.toOption.map fun rules =>
      (rules.manual .xml {} markupDocs).result.toBool) = some true := by decide +kernel
  cases hload : (RuleSet.load markupGrammar grammarPath none).result with
  | error e =>
    rw [hload] at hdone
    cases hdone
  | ok rules =>
    rw [hload] at hdone
    have hbool : (rules.manual .xml {} markupDocs).result.toBool = true := Option.some.inj hdone
    cases h : (rules.manual .xml {} markupDocs).result with
    | error e =>
      rw [h] at hbool
      cases hbool
    | ok document =>
      obtain ⟨s, entries, c, x, -, -, -, -, -, -, htree, -, hread, hstrip, hshape⟩ :=
        xml_read_back hload h
      exact ⟨rules, document, c, x, rfl, h, htree, hread, hstrip, hshape⟩

end GrammarManual
