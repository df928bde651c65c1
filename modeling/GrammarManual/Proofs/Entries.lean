import GrammarManual.Proofs.TextDrafts
import GrammarManual.Proofs.XmlDrafts

/-!
# Proofs/Entries: what the items of a finished document come to

* `Entry` -- what an item says: its annotations, its name, the marks of its body and the rules that
  refer to it. `Entry.sheet` is what is written of it, `Entry.element` the XML element that says it,
  `Entry.text` its description as text;
* `ofSheet_element`, `ofSheet_text` -- the sheet of an entry gives this element and this text;
* `Catalogue`, **`xml_tree`** -- the tree of a finished XML document is that of a catalogue;
* `Survey.sheets_eq` -- the sheets of a manual are those of its entries.
-/

namespace GrammarManual

/-! ## 1. Entries -/

/-- What an item of a finished document says. -/
structure Entry where
  annotations : List String
  name : String
  /-- The marks of the rule body. -/
  body : List Marker
  /-- The rules that refer to it. -/
  usages : List String
  deriving Repr, Inhabited

/-- The element of a mark. -/
def Marker.element : Marker → XmlElement
  | .whitespace => .leaf "whitespace" [] .empty
  | .lineBreak => .leaf "crlf" [] .empty
  | .symbol text => .leaf "symbol" [] (.ofText text)
  | .string text => .leaf "string" [] (.ofText text)
  | .identifier name => .leaf "identifier" [("name", name)] .empty
  | .other text => .leaf "other" [] (.text text)
  | .remark text => .leaf "annotation" [] (.text text)
  | .declaration name => .leaf "declaration" [("name", name)] .empty
  | .usages names => .branch "usages" [] (names.map fun name => .leaf "declaration" [] (.text name))
  | .description => .branch "description" [] []
  | .endDescription => .branch "item" [] []

/-- A mark of a description as text. -/
def Marker.shown : Marker → String
  | .whitespace => " "
  | .lineBreak => "\n"
  | .symbol text => text
  | .string text => text
  | .identifier name => name
  | .other text => text
  | _ => ""

/-- The text of some marks. -/
def shownAll (marks : List Marker) : String := marks.foldl (fun text mark => text ++ mark.shown) ""

namespace Entry

/-- The marks of the description: the body behind a colon, and a semicolon below it. -/
def marks (e : Entry) : List Marker :=
  [.whitespace, .whitespace, .symbol ":", .whitespace] ++ e.body ++
    Layout.newLine Layout.alternativeIndent ++ [.other ";"]

/-- The children of an item element but for the usages. -/
def head (e : Entry) : List XmlElement :=
  e.annotations.map (fun text => (Marker.remark text).element) ++
    [(Marker.declaration e.name).element,
      .branch "description" [] (e.marks.map Marker.element)]

/-- The element of an item; it has a `usages` element only if there are usages. -/
def element (e : Entry) : XmlElement :=
  .branch "item" []
    (e.head ++ if e.usages = [] then [] else [(Marker.usages e.usages).element])

/-- The description as text. -/
def text (e : Entry) : String := shownAll e.marks

/-- All marks that are written of an item. -/
def sheet (e : Entry) : Sheet :=
  (e.annotations.map .remark ++ [.declaration e.name]) ++ .description ::
    (e.marks ++ .endDescription :: if e.usages = [] then [] else [.usages e.usages])

/-- Whether the body is made of the marks of a layout. -/
def IsLaidOut (e : Entry) : Prop := ∀ mark ∈ e.body, mark.isBody = true

theorem isBody_of_mem_marks {e : Entry} (h : e.IsLaidOut) {mark : Marker} (hm : mark ∈ e.marks) :
    mark.isBody = true ∨ mark = .other ";" := by
  simp only [marks, Layout.newLine, List.mem_append, List.mem_cons, List.mem_replicate,
    List.not_mem_nil, or_false] at hm
  rcases hm with ((hstart | hbody) | hbreak) | hend
  · rcases hstart with rfl | rfl | rfl | rfl <;> exact .inl rfl
  · exact .inl (h mark hbody)
  · rcases hbreak with rfl | ⟨-, rfl⟩ <;> exact .inl rfl
  · exact .inr hend

end Entry

/-! ## 2. XML items -/

/-- Marks that are written as one leaf. -/
def Marker.isLeaf : Marker → Bool
  | .usages _ => false
  | .description => false
  | .endDescription => false
  | _ => true

namespace XmlItem

theorem write_leaf {mark : Marker} (hleaf : mark.isLeaf = true) (hheld : mark.isHeld = true)
    (i : XmlItem) : (i.write mark).1 = i.put mark.element := by
  cases mark with
  | whitespace => rfl
  | lineBreak => rfl
  | symbol text =>
    have h : isXmlText text = true := hheld
    show i.put (XmlElement.ofText "symbol" text .ofText).1 = _
    rw [XmlElement.ofText, if_pos h]
    rfl
  | string text =>
    have h : isXmlText text = true := hheld
    show i.put (XmlElement.ofText "string" text .ofText).1 = _
    rw [XmlElement.ofText, if_pos h]
    rfl
  | identifier name =>
    have h : isXmlText name = true := hheld
    show i.put (XmlElement.named "identifier" name).1 = _
    rw [XmlElement.named, if_pos h]
    rfl
  | other text =>
    have h : isXmlText text = true := hheld
    show i.put (XmlElement.ofText "other" text .text).1 = _
    rw [XmlElement.ofText, if_pos h]
    rfl
  | remark text =>
    have h : isXmlText text = true := hheld
    show i.put (XmlElement.ofText "annotation" text .text).1 = _
    rw [XmlElement.ofText, if_pos h]
    rfl
  | declaration name =>
    have h : isXmlText name = true := hheld
    show i.put (XmlElement.named "declaration" name).1 = _
    rw [XmlElement.named, if_pos h]
    rfl
  | usages names => cases hleaf
  | description => cases hleaf
  | endDescription => cases hleaf

theorem usageList_held {names : List String} (h : names.all isXmlText = true) :
    XmlElement.usageList names =
      (names.map fun name => .leaf "declaration" [] (.text name), none) := by
  induction names with
  | nil => rfl
  | cons name names ih =>
    rw [List.all_cons, Bool.and_eq_true] at h
    rw [XmlElement.usageList, ih h.2, XmlElement.ofText, if_pos h.1]
    rfl

/-- An item outside its description. -/
def plain (children : List XmlElement) : XmlItem := ⟨.branch "item" [] children, []⟩

/-- An item inside its description, the last of its children. -/
def describing (children marks : List XmlElement) : XmlItem :=
  ⟨.branch "item" [] (children ++ [.branch "description" [] marks]), [children.length]⟩

theorem write_plain {marks : List Marker} (hleaf : ∀ mark ∈ marks, mark.isLeaf = true)
    (hheld : ∀ mark ∈ marks, mark.isHeld = true) (children : List XmlElement) :
    marks.foldl (fun i mark => (XmlItem.write i mark).1) (plain children) =
      plain (children ++ marks.map Marker.element) := by
  induction marks generalizing children with
  | nil => rw [List.map_nil, List.append_nil]; rfl
  | cons mark marks ih =>
    have hfirst := write_leaf (hleaf mark List.mem_cons_self) (hheld mark List.mem_cons_self)
      (plain children)
    rw [List.foldl_cons, hfirst]
    have hrest := ih (fun m hm => hleaf m (List.mem_cons_of_mem _ hm))
      (fun m hm => hheld m (List.mem_cons_of_mem _ hm)) (children ++ [mark.element])
    rw [List.append_assoc] at hrest
    exact hrest

theorem write_describing {marks : List Marker} (hleaf : ∀ mark ∈ marks, mark.isLeaf = true)
    (hheld : ∀ mark ∈ marks, mark.isHeld = true) (children written : List XmlElement) :
    marks.foldl (fun i mark => (XmlItem.write i mark).1) (describing children written) =
      describing children (written ++ marks.map Marker.element) := by
  induction marks generalizing written with
  | nil => rw [List.map_nil, List.append_nil]; rfl
  | cons mark marks ih =>
    have hfirst := write_leaf (hleaf mark List.mem_cons_self) (hheld mark List.mem_cons_self)
      (describing children written)
    have hput : (describing children written).put mark.element =
        describing children (written ++ [mark.element]) := by
      unfold describing put
      rw [XmlElement.append, modify_last]
      rfl
    rw [List.foldl_cons, hfirst, hput]
    have hrest := ih (fun m hm => hleaf m (List.mem_cons_of_mem _ hm))
      (fun m hm => hheld m (List.mem_cons_of_mem _ hm)) (written ++ [mark.element])
    rw [List.append_assoc] at hrest
    exact hrest

theorem write_usages {names : List String} (h : names.all isXmlText = true)
    (children : List XmlElement) :
    ((plain children).write (.usages names)).1 =
      plain (children ++ [(Marker.usages names).element]) := by
  show XmlItem.mk _ _ = _
  rw [usageList_held h]
  rfl

end XmlItem

namespace Entry

theorem isLeaf_of_mem_marks {e : Entry} (h : e.IsLaidOut) {mark : Marker} (hm : mark ∈ e.marks) :
    mark.isLeaf = true := by
  rcases isBody_of_mem_marks h hm with hbody | rfl
  · cases mark <;> first | rfl | cases hbody
  · rfl

/-- **The sheet of an entry gives its element.** -/
theorem ofSheet_element {e : Entry} (h : e.IsLaidOut)
    (hheld : ∀ mark ∈ e.sheet, mark.isHeld = true) :
    (XmlItem.ofSheet e.sheet).element = e.element := by
  have hleaf : ∀ mark ∈ e.annotations.map Marker.remark ++ [.declaration e.name],
      mark.isLeaf = true := by
    intro mark hm
    rcases List.mem_append.mp hm with hm | hm
    · obtain ⟨text, -, rfl⟩ := List.mem_map.mp hm
      rfl
    · rw [List.mem_singleton.mp hm]
      rfl
  obtain ⟨hheldHead, hheldRest⟩ := List.forall_mem_append.mp hheld
  obtain ⟨hheldMarks, hheldEnd⟩ :=
    List.forall_mem_append.mp (List.forall_mem_cons.mp hheldRest).2
  have hchildren :
      (e.annotations.map Marker.remark ++ [Marker.declaration e.name]).map Marker.element ++
      [.branch "description" [] (e.marks.map Marker.element)] = e.head := by
    rw [List.map_append, List.map_map, List.append_assoc]
    rfl
  -- the head, then the description, then the usages
  have hhead := XmlItem.write_plain hleaf hheldHead []
  have hbody := XmlItem.write_describing (fun mark hm => isLeaf_of_mem_marks h hm) hheldMarks
    ((e.annotations.map Marker.remark ++ [Marker.declaration e.name]).map Marker.element) []
  rw [List.nil_append] at hhead hbody
  have hbegin : ∀ children, XmlItem.write (XmlItem.plain children) .description =
      (XmlItem.describing children [], none) := fun _ => rfl
  have hend : ∀ children marks, XmlItem.write (XmlItem.describing children marks) .endDescription =
      (XmlItem.plain (children ++ [.branch "description" [] marks]), none) := fun _ _ => rfl
  have hfresh : ({} : XmlItem) = XmlItem.plain [] := rfl
  unfold XmlItem.ofSheet sheet element
  rw [List.foldl_append, hfresh, hhead, List.foldl_cons, hbegin, List.foldl_append, hbody,
    List.foldl_cons, hend, hchildren]
  by_cases hnone : e.usages = []
  · rw [if_pos hnone, if_pos hnone, List.append_nil]
    rfl
  · rw [if_neg hnone] at hheldEnd
    have husages : e.usages.all isXmlText = true :=
      hheldEnd (.usages e.usages) (List.mem_cons_of_mem _ List.mem_cons_self)
    rw [if_neg hnone, if_neg hnone, List.foldl_cons, XmlItem.write_usages husages]
    rfl

end Entry

/-! ## 3. Text items -/

namespace TextItem

theorem write_marks {marks : List Marker}
    (h : ∀ mark ∈ marks, mark.isBody = true ∨ mark = .other ";")
    (i : TextItem) :
    marks.foldl TextItem.write i =
      { i with body := marks.foldl (fun text mark => text ++ mark.shown) i.body } := by
  induction marks generalizing i with
  | nil => rfl
  | cons mark marks ih =>
    have hfirst : i.write mark = { i with body := i.body ++ mark.shown } := by
      rcases h mark List.mem_cons_self with hbody | rfl
      · cases mark <;> first | rfl | cases hbody
      · rfl
    rw [List.foldl_cons, hfirst, ih fun m hm => h m (List.mem_cons_of_mem _ hm)]
    rfl

theorem write_remarks (texts : List String) (i : TextItem) :
    (texts.map Marker.remark).foldl TextItem.write i =
      { i with annotations := i.annotations ++ texts } := by
  induction texts generalizing i with
  | nil =>
    show i = { i with annotations := i.annotations ++ [] }
    rw [List.append_nil]
  | cons text texts ih =>
    rw [List.map_cons, List.foldl_cons, ih, write]
    simp

end TextItem

/-- What is written behind a text stands behind what is written alone. -/
theorem foldl_shown (marks : List Marker) (text : String) :
    marks.foldl (fun text mark => text ++ mark.shown) text = text ++ shownAll marks := by
  unfold shownAll
  induction marks generalizing text with
  | nil => simp
  | cons mark marks ih =>
    rw [List.foldl_cons, List.foldl_cons, ih, ih ("" ++ mark.shown)]
    simp [String.append_assoc]

namespace Entry

/-- **The sheet of an entry gives its text**, which a line break opens. -/
theorem ofSheet_text {e : Entry} (h : e.IsLaidOut) :
    TextItem.ofSheet e.sheet =
      { annotations := e.annotations, name := e.name, body := "\n" ++ e.text,
        usages := e.usages } := by
  have hmarks := TextItem.write_marks fun mark hm => isBody_of_mem_marks h hm
  unfold TextItem.ofSheet sheet
  rw [List.foldl_append, List.foldl_append, TextItem.write_remarks, List.foldl_cons,
    List.foldl_append, hmarks, foldl_shown]
  by_cases hnone : e.usages = []
  · rw [if_pos hnone, hnone]
    rfl
  · rw [if_neg hnone]
    rfl

end Entry

/-! ## 4. Catalogues -/

/-- A finished document: its passages with the entries of the items. -/
abbrev Catalogue := List (Passage String (Option String) Entry)

/-- The element of a passage. -/
def Passage.element : Passage String (Option String) Entry → XmlElement
  | .notes text => .branch "set" [] [docElement text]
  | .entry e => e.element
  | .chapter c =>
    .branch "set" [("name", c.name)]
      ((c.blurb.map docElement).toList ++ c.entries.map Entry.element)

/-- The tree of a finished document. -/
def Catalogue.element (c : Catalogue) : XmlElement := .branch "tokens" [] (c.map Passage.element)

/-- The entries of a passage. -/
def Passage.entries {ν β α : Type} : Passage ν β α → List α
  | .notes _ => []
  | .entry a => [a]
  | .chapter c => c.entries

theorem Outline.mem_placed {ν β α : Type} {o : Outline ν β α} {p : Passage ν β α} {a : α}
    (hp : p ∈ o.passages) (ha : a ∈ p.entries) : a ∈ o.placed.map Prod.snd := by
  have hmem : a ∈ p.placed.map Prod.snd := by
    cases p with
    | notes text => cases ha
    | entry b => exact ha
    | chapter c =>
      show a ∈ (c.entries.map _).map Prod.snd
      rw [List.map_map]
      exact List.mem_map.mpr ⟨a, ha, rfl⟩
  obtain ⟨q, hq, rfl⟩ := List.mem_map.mp hmem
  exact List.mem_map.mpr ⟨q, List.mem_flatMap.mpr ⟨p, hp, hq⟩, rfl⟩

/-- An outline with entries for the numbers of items. -/
def Outline.fill (o : Outline String (Option String) Nat) (entries : List Entry) : Catalogue :=
  o.passages.map (Passage.map id id fun number => entries[number]?.getD default)

/-- What holds of all entries holds of those in a passage. -/
theorem Outline.forall_fill {P : Entry → Prop} {o : Outline String (Option String) Nat}
    {entries : List Entry} (hdefault : P default) (h : ∀ e ∈ entries, P e) :
    ∀ p ∈ o.fill entries, ∀ e ∈ p.entries, P e := by
  intro p hp e he
  obtain ⟨q, -, rfl⟩ := List.mem_map.mp hp
  obtain ⟨number, rfl⟩ : ∃ number, e = entries[number]?.getD default := by
    cases q with
    | notes text => cases he
    | entry number => exact ⟨number, List.mem_singleton.mp he⟩
    | chapter c =>
      obtain ⟨number, -, rfl⟩ := List.mem_map.mp he
      exact ⟨number, rfl⟩
  cases hn : entries[number]? with
  | none => exact hdefault
  | some e => exact h e (List.mem_of_getElem? hn)

theorem foldl_append_children (tag : String) (attributes : List (String × String))
    (element : Nat → XmlElement) (numbers : List Nat) (children : List XmlElement) :
    numbers.foldl (fun set number => XmlElement.append set [] (element number))
        (.branch tag attributes children) =
      .branch tag attributes (children ++ numbers.map element) := by
  induction numbers generalizing children with
  | nil => rw [List.map_nil, List.append_nil]; rfl
  | cons number numbers ih =>
    rw [List.foldl_cons, XmlElement.append, ih, List.append_assoc]
    rfl

/-- **The tree of a finished XML document is that of its catalogue.** -/
theorem xml_tree {d : XmlDraft} {k : Sketch} {entries : List Entry} (hd : d.Follows k)
    (hk : k.sheets = entries.map Entry.sheet) (hlaid : ∀ e ∈ entries, e.IsLaidOut)
    (hnumbers : k.outline.placed.map Prod.snd = List.range entries.length) :
    d.tree = Catalogue.element (k.outline.fill entries) := by
  unfold XmlDraft.tree Catalogue.element Outline.fill
  rw [hd.parts, List.map_map, List.map_map]
  refine congrArg (XmlElement.branch "tokens" []) (List.map_congr_left fun p hp => ?_)
  have hitem : ∀ number ∈ p.entries, d.itemElement number =
      (entries[number]?.getD default).element := by
    intro number hn
    have hmem := Outline.mem_placed hp hn
    rw [hnumbers, List.mem_range] at hmem
    have hsheet : k.sheets[number]? = some entries[number].sheet := by
      rw [hk, List.getElem?_map, List.getElem?_eq_getElem hmem]
      rfl
    unfold XmlDraft.itemElement
    rw [hd.items, List.getElem?_map, hsheet, List.getElem?_eq_getElem hmem]
    exact Entry.ofSheet_element (hlaid _ (List.getElem_mem hmem))
      (hd.marks _ (List.mem_of_getElem? hsheet))
  cases p with
  | notes text => rfl
  | entry number => exact hitem number List.mem_cons_self
  | chapter c =>
    show c.entries.foldl _ _ = XmlElement.branch "set" [("name", c.name)] _
    rw [foldl_append_children]
    have hsame : c.entries.map d.itemElement = (c.entries.map fun number =>
        entries[number]?.getD default).map Entry.element := by
      rw [List.map_map]
      exact List.map_congr_left hitem
    rw [hsame]
    rfl

/-! ## 5. Manuals -/

namespace Script.Source

variable {s : Source} {lexerItems parserItems : List Item} {m : UsageMap Nat}

/-- What is said of a rule above it. -/
def annotationsOf (s : Source) (r : Rule) : List String :=
  (if r.fragment then ["helper"] else []) ++
    if s.settings.startRules.contains r.name then ["start"] else []

/-- The entry of an item with some usages blocks. -/
def entryOf (s : Source) (i : Item) (blocks : List (List String)) : Entry where
  annotations := s.annotationsOf i.rule
  name := i.rule.name
  body := i.body.markers
  usages := blocks.flatten

theorem itemHead_eq (s : Source) (i : Item) : s.itemHead i =
    (s.annotationsOf i.rule).map .remark ++ [.declaration i.rule.name] := by
  unfold itemHead annotationsOf
  cases i.rule.fragment <;> cases s.settings.startRules.contains i.rule.name <;> rfl

/-- At most one block, and none that lists nothing. -/
def OneBlock (blocks : List (List String)) : Prop :=
  blocks = [] ∨ ∃ names, names ≠ [] ∧ blocks = [names]

/-- What is written of an item is the sheet of its entry. -/
theorem sheet_entryOf (s : Source) (i : Item) {blocks : List (List String)}
    (hblocks : OneBlock blocks) :
    s.sheetOf i ++ blocks.map .usages = (s.entryOf i blocks).sheet := by
  have husages : (blocks.map Marker.usages : Sheet) =
      if (s.entryOf i blocks).usages = [] then [] else [.usages (s.entryOf i blocks).usages] := by
    rcases hblocks with rfl | ⟨names, hne, rfl⟩
    · rfl
    · have hflat : (s.entryOf i [names]).usages = names := List.append_nil names
      rw [hflat, if_neg hne]
      rfl
  rw [sheetOf_eq, itemHead_eq, husages]
  unfold Entry.sheet
  simp only [List.append_assoc, List.cons_append, List.nil_append]
  rfl

/-- The entries of some items, with the usages flushed to each. -/
def entries (s : Source) (items : List Item) (m : UsageMap Nat) : List Entry :=
  items.mapIdx fun number i => s.entryOf i ((bound m 0 items).flushedAt number)

theorem exists_of_mem_entries {items : List Item} {e : Entry} (h : e ∈ s.entries items m) :
    ∃ i ∈ items, ∃ blocks, e = s.entryOf i blocks := by
  obtain ⟨number, hlt, rfl⟩ := List.mem_mapIdx.mp h
  exact ⟨_, List.getElem_mem hlt, _, rfl⟩

theorem isLaidOut_entries (s : Source) (items : List Item) (m : UsageMap Nat) :
    ∀ e ∈ s.entries items m, e.IsLaidOut := by
  intro e he
  obtain ⟨i, -, blocks, rfl⟩ := exists_of_mem_entries he
  exact fun mark hm => Layout.isBody_of_mem _ hm

/-- **An item has at most one usages block**, and none if nobody refers to it. -/
theorem Survey.oneBlock (h : Survey s lexerItems parserItems m) {number : Nat} {i : Item}
    (hi : (lexerItems ++ parserItems)[number]? = some i) :
    OneBlock ((bound m 0 (lexerItems ++ parserItems)).flushedAt number) := by
  by_cases hfirst : ∀ j < number, ∀ other, (lexerItems ++ parserItems)[j]? = some other →
      other.rule.name ≠ i.rule.name
  · rw [flushedAt_first h.sound h.unbound hi hfirst]
    by_cases hnone : m.referrers i.rule.name = []
    · rw [if_pos hnone]
      exact .inl rfl
    · rw [if_neg hnone]
      exact .inr ⟨_, hnone, rfl⟩
  · push Not at hfirst
    obtain ⟨j, hj, other, hother, hname⟩ := hfirst
    exact .inl (flushedAt_later h.sound h.unbound hj hother hi hname)

/-- **The sheets of a manual are those of its entries.** -/
theorem Survey.sheets_eq (h : Survey s lexerItems parserItems m) :
    s.finalSheets (lexerItems ++ parserItems) m =
      (s.entries (lexerItems ++ parserItems) m).map Entry.sheet := by
  refine List.ext_getElem? fun number => ?_
  unfold entries
  rw [getElem?_finalSheets, List.getElem?_map, List.getElem?_mapIdx]
  cases hi : (lexerItems ++ parserItems)[number]? with
  | none => rfl
  | some i => exact congrArg some (s.sheet_entryOf i (h.oneBlock hi))

end Script.Source

end GrammarManual
