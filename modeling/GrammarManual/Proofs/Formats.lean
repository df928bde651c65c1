import GrammarManual.Proofs.Entries
import GrammarManual.Proofs.XmlReader

/-!
# Proofs/Formats: both formats say the same

A reader of a manual sees passages with entries, whatever the format. Markup of blurbs is gone in
the text, so both are read down to comment lines.

* `SeenEntry`, `Seen` -- what a reader sees;
* `XmlElement.seen?` -- reading the tree of an XML document. Nothing is passed over: an element in a
  place where it does not belong makes the whole tree unreadable;
* `TextDraft.seen?` -- reading the blocks of a text;
* `Seen.Describes` -- what is seen are the documented rules, each in its section;
* **`formats_agree`** -- both documents of a run are read as the same.
-/

namespace GrammarManual

/-! ## 1. What is seen -/

/-- An entry as a reader of either format sees it. -/
structure SeenEntry where
  annotations : List String
  name : String
  body : String
  usages : List String
  deriving DecidableEq, Repr

/-- A manual as a reader of either format sees it: notes and blurbs are comment lines. -/
abbrev Seen := List (Passage (List String) (List String) SeenEntry)

/-- An entry as it is seen. -/
def Entry.seen (e : Entry) : SeenEntry := ⟨e.annotations, e.name, e.text, e.usages⟩

/-- A catalogue as it is seen. -/
def Catalogue.seen (c : Catalogue) : Seen :=
  c.map (Passage.map TextDraft.comment (fun blurb => blurb.elim [] TextDraft.comment) Entry.seen)

/-- Readings that all succeed. -/
theorem mapM_eq_some {α β : Type} {f : α → Option β} {g : α → β} {as : List α}
    (h : ∀ a ∈ as, f a = some (g a)) : as.mapM f = some (as.map g) := by
  induction as with
  | nil => rfl
  | cons a as ih =>
    rw [List.mapM_cons, h a List.mem_cons_self, ih fun b hb => h b (List.mem_cons_of_mem _ hb)]
    rfl

/-! ## 2. Reading XML -/

namespace XmlElement

/-- The text of a leaf of some tag without attributes. -/
def textOf? (tag : String) : XmlElement → Option String
  | .leaf t attributes body => if t = tag ∧ attributes = [] then some body.content else none
  | .branch .. => none

/-- The name that a leaf of some tag carries. -/
def nameOf? (tag : String) : XmlElement → Option String
  | .leaf t [(key, value)] _ => if t = tag ∧ key = "name" then some value else none
  | _ => none

/-- The children of a branch of some tag without attributes. -/
def childrenOf? (tag : String) : XmlElement → Option (List XmlElement)
  | .branch t attributes children => if t = tag ∧ attributes = [] then some children else none
  | .leaf .. => none

/-- A mark of a description as text. -/
def shown? (e : XmlElement) : Option String :=
  ((e.textOf? "whitespace").map fun _ => " ").or <|
    ((e.textOf? "crlf").map fun _ => "\n").or <|
      (e.nameOf? "identifier").or <|
        (e.textOf? "symbol").or <| (e.textOf? "string").or <| e.textOf? "other"

/-- The annotations that come first, and the elements behind them. -/
def annotations : List XmlElement → List String × List XmlElement
  | [] => ([], [])
  | e :: es =>
    match e.textOf? "annotation" with
    | some text => (text :: (annotations es).1, (annotations es).2)
    | none => ([], e :: es)

/-- The usages behind a description. -/
def usages? : List XmlElement → Option (List String)
  | [] => some []
  | [e] => (e.childrenOf? "usages").bind fun names => names.mapM (textOf? "declaration")
  | _ => none

/-- An item as it is seen. -/
def seenEntry? (e : XmlElement) : Option SeenEntry :=
  match (e.childrenOf? "item").map annotations with
  | some (annotations, declaration :: description :: last) => do
    let name ← declaration.nameOf? "declaration"
    let marks ← description.childrenOf? "description"
    let shown ← marks.mapM shown?
    let usages ← usages? last
    return ⟨annotations, name, shown.foldl (· ++ ·) "", usages⟩
  | _ => none

/-- The remarks of a set, if it has any, and the elements behind them. -/
def remarks : List XmlElement → List String × List XmlElement
  | [] => ([], [])
  | e :: es =>
    match e.textOf? "doc" with
    | some text => (TextDraft.comment text, es)
    | none => ([], e :: es)

/-- A child of the root as it is seen. -/
def seenPassage? : XmlElement → Option (Passage (List String) (List String) SeenEntry)
  | .branch "set" [] [doc] => (doc.textOf? "doc").map fun text => .notes (TextDraft.comment text)
  | .branch "set" [("name", name)] children =>
    ((remarks children).2.mapM seenEntry?).map fun entries =>
      .chapter ⟨name, (remarks children).1, entries⟩
  | e => e.seenEntry?.map .entry

/-- A tree as it is seen. -/
def seen? (root : XmlElement) : Option Seen :=
  (root.childrenOf? "tokens").bind fun children => children.mapM seenPassage?

end XmlElement

theorem Marker.shown?_element {mark : Marker} (h : mark.isBody = true ∨ mark = .other ";") :
    mark.element.shown? = some mark.shown := by
  cases mark with
  | symbol text =>
    show some (XmlBody.ofText text).content = some text
    rw [XmlBody.content_ofText]
  | string text =>
    show some (XmlBody.ofText text).content = some text
    rw [XmlBody.content_ofText]
  | whitespace => rfl
  | lineBreak => rfl
  | identifier name => rfl
  | other text => rfl
  | _ => simp [Marker.isBody] at h

namespace Entry

theorem annotations_read (texts : List String) (name : String) (rest : List XmlElement) :
    XmlElement.annotations (texts.map (fun text => (Marker.remark text).element) ++
        (Marker.declaration name).element :: rest) =
      (texts, (Marker.declaration name).element :: rest) := by
  induction texts with
  | nil => rfl
  | cons text texts ih =>
    have hfirst : (Marker.remark text).element.textOf? "annotation" = some text := rfl
    rw [List.map_cons, List.cons_append, XmlElement.annotations, hfirst]
    dsimp only
    rw [ih]

theorem usages_read (names : List String) :
    XmlElement.usages? (if names = [] then [] else [(Marker.usages names).element]) =
      some names := by
  by_cases hnone : names = []
  · rw [if_pos hnone, hnone]
    rfl
  · have hread : (names.map fun name => XmlElement.leaf "declaration" [] (.text name)).mapM
        (XmlElement.textOf? "declaration") = some names := by
      rw [List.mapM_map]
      exact (mapM_eq_some fun name _ => rfl).trans (congrArg some (List.map_id' names))
    rw [if_neg hnone]
    exact hread

/-- **The element of an entry reads as the entry is seen.** -/
theorem element_read {e : Entry} (h : e.IsLaidOut) : e.element.seenEntry? = some e.seen := by
  have hmarks : (e.marks.map Marker.element).mapM XmlElement.shown? =
      some (e.marks.map Marker.shown) := by
    rw [List.mapM_map]
    exact mapM_eq_some fun mark hm => Marker.shown?_element (isBody_of_mem_marks h hm)
  have hchildren : (e.element.childrenOf? "item").map XmlElement.annotations =
      some (e.annotations, (Marker.declaration e.name).element ::
        .branch "description" [] (e.marks.map Marker.element) ::
          if e.usages = [] then [] else [(Marker.usages e.usages).element]) := by
    show some (XmlElement.annotations _) = _
    rw [head, List.append_assoc, List.cons_append, List.cons_append, List.nil_append,
      annotations_read]
  unfold XmlElement.seenEntry?
  rw [hchildren]
  dsimp only
  have hname : (Marker.declaration e.name).element.nameOf? "declaration" = some e.name := rfl
  have hdescription : (XmlElement.branch "description" [] (e.marks.map Marker.element)).childrenOf?
      "description" = some (e.marks.map Marker.element) := rfl
  have htext : (e.marks.map Marker.shown).foldl (· ++ ·) "" = e.text := List.foldl_map
  rw [hname, hdescription, Option.bind_eq_bind, Option.bind_some, Option.bind_eq_bind,
    Option.bind_some, hmarks, Option.bind_eq_bind, Option.bind_some, usages_read,
    Option.bind_some, htext]
  rfl

end Entry

/-- Passages whose entries are laid out. -/
def Passage.IsLaidOut (p : Passage String (Option String) Entry) : Prop :=
  ∀ e ∈ p.entries, e.IsLaidOut

theorem Passage.element_read {p : Passage String (Option String) Entry} (h : p.IsLaidOut) :
    p.element.seenPassage? = some (p.map TextDraft.comment
      (fun blurb => blurb.elim [] TextDraft.comment) Entry.seen) := by
  cases p with
  | notes text =>
    show some (Passage.notes (TextDraft.comment (XmlBody.ofText text).content)) = _
    rw [XmlBody.content_ofText]
    rfl
  | entry e =>
    show e.element.seenEntry?.map Passage.entry = _
    rw [Entry.element_read (h e List.mem_cons_self)]
    rfl
  | chapter c =>
    have hremarks : XmlElement.remarks ((c.blurb.map docElement).toList ++
        c.entries.map Entry.element) =
          (c.blurb.elim [] TextDraft.comment, c.entries.map Entry.element) := by
      cases c.blurb with
      | none =>
        cases c.entries with
        | nil => rfl
        | cons e es => rfl
      | some text =>
        show (TextDraft.comment (XmlBody.ofText text).content, _) = _
        rw [XmlBody.content_ofText]
        rfl
    have hentries : (c.entries.map Entry.element).mapM XmlElement.seenEntry? =
        some (c.entries.map Entry.seen) := by
      rw [List.mapM_map]
      exact mapM_eq_some fun e he => Entry.element_read (h e he)
    show ((XmlElement.remarks _).2.mapM XmlElement.seenEntry?).map _ = _
    rw [hremarks, hentries]
    rfl

/-- **The tree of a catalogue reads as the catalogue is seen.** -/
theorem Catalogue.element_read {c : Catalogue} (h : ∀ p ∈ c, p.IsLaidOut) :
    (Catalogue.element c).seen? = some (Catalogue.seen c) := by
  show (c.map Passage.element).mapM XmlElement.seenPassage? = _
  rw [List.mapM_map]
  exact mapM_eq_some fun p hp => Passage.element_read (h p hp)

/-! ## 3. Reading a text -/

/-- An item of a text as it is seen. A line break stands before every body. -/
def TextItem.seen? (i : TextItem) : Option SeenEntry :=
  match i.body.toList with
  | '\n' :: body => some ⟨i.annotations, i.name, String.ofList body, i.usages⟩
  | _ => none

/-- A passage with its entries read. -/
def Passage.read? {ν β α α' : Type} (f : α → Option α') : Passage ν β α → Option (Passage ν β α')
  | .notes text => some (.notes text)
  | .entry a => (f a).map .entry
  | .chapter c => (c.entries.mapM f).map fun entries => .chapter ⟨c.name, c.blurb, entries⟩

/-- A text as it is seen. Whether notes on the notation come first has to be known. -/
def TextDraft.seen? (d : TextDraft) (hasNotes : Bool) : Option Seen :=
  (d.outline? hasNotes).bind fun o =>
    o.passages.mapM (Passage.read? fun number => d.items[number]?.bind TextItem.seen?)

theorem Passage.read?_eq_some {ν β α α' : Type} {f : α → Option α'} {g : α → α'}
    {p : Passage ν β α} (h : ∀ a ∈ p.entries, f a = some (g a)) :
    p.read? f = some (p.map id id g) := by
  cases p with
  | notes text => rfl
  | entry a =>
    show (f a).map Passage.entry = _
    rw [h a List.mem_cons_self]
    rfl
  | chapter c =>
    have hall : ∀ a ∈ c.entries, f a = some (g a) := h
    show (c.entries.mapM f).map _ = _
    rw [mapM_eq_some hall]
    rfl

/-- The item of a sheet reads as its entry is seen. -/
theorem Entry.ofSheet_read {e : Entry} (h : e.IsLaidOut) :
    (TextItem.ofSheet e.sheet).seen? = some e.seen := by
  have hbody : ("\n" ++ e.text).toList = '\n' :: e.text.toList := String.toList_append
  unfold TextItem.seen?
  rw [ofSheet_text h, hbody]
  show some (SeenEntry.mk _ _ (String.ofList e.text.toList) _) = _
  rw [String.ofList_toList]
  rfl

/-- **A text that follows a sketch reads as its catalogue is seen.** -/
theorem text_read {d : TextDraft} {hasNotes : Bool} {o : Outline String (Option String) Nat}
    {entries : List Entry} (houtline : d.outline? hasNotes = some o.inText)
    (hitems : d.items = (entries.map Entry.sheet).map TextItem.ofSheet)
    (hlaid : ∀ e ∈ entries, e.IsLaidOut)
    (hnumbers : o.placed.map Prod.snd = List.range entries.length) :
    d.seen? hasNotes = some (Catalogue.seen (o.fill entries)) := by
  have hitem : ∀ number < entries.length, d.items[number]?.bind TextItem.seen? =
      some (entries[number]?.getD default).seen := by
    intro number hn
    rw [hitems, List.getElem?_map, List.getElem?_map, List.getElem?_eq_getElem hn]
    exact Entry.ofSheet_read (hlaid _ (List.getElem_mem hn))
  unfold TextDraft.seen?
  rw [houtline, Option.bind_some, Outline.inText, Outline.passages_map, List.mapM_map]
  refine (mapM_eq_some fun p hp => ?_).trans (congrArg some (List.map_map).symm)
  have hbelow : ∀ number ∈ p.entries, number < entries.length := by
    intro number hn
    have hmem := Outline.mem_placed hp hn
    rwa [hnumbers, List.mem_range] at hmem
  have hread : ∀ number ∈ (p.map TextDraft.comment (fun blurb => blurb.elim [] TextDraft.comment)
      id).entries, d.items[number]?.bind TextItem.seen? =
        some (entries[number]?.getD default).seen := by
    intro number hn
    refine hitem number (hbelow number ?_)
    cases p with
    | notes text => cases hn
    | entry a => exact hn
    | chapter c =>
      have hn' : number ∈ c.entries.map id := hn
      rwa [List.map_id] at hn'
  rw [Function.comp_apply, Passage.read?_eq_some hread]
  cases p with
  | notes text => rfl
  | entry a => rfl
  | chapter c =>
    refine congrArg (fun entries => some (Passage.chapter ⟨c.name, _, entries⟩)) ?_
    show ((c.entries.map id).map _) = (c.entries.map _).map Entry.seen
    rw [List.map_id, List.map_map]
    rfl

/-! ## 4. Both formats -/

/-- What is seen of the entries, with the section of each. -/
def Seen.placed (seen : Seen) : List (Option String × SeenEntry) := seen.flatMap Passage.placed

theorem flatMap_placed_map {ν β α ν' β' α' : Type} (f : ν → ν') (g : β → β') (h : α → α')
    (ps : List (Passage ν β α)) : (ps.map (Passage.map f g h)).flatMap Passage.placed =
      (ps.flatMap Passage.placed).map fun q => (q.1, h q.2) := by
  rw [List.flatMap_map, List.map_flatMap]
  exact congrArg (List.flatMap · ps) (funext fun p => p.placed_map f g h)

theorem Passage.isNotes_map {ν β α ν' β' α' : Type} (f : ν → ν') (g : β → β') (h : α → α')
    (p : Passage ν β α) : (p.map f g h).isNotes = p.isNotes := by
  cases p <;> rfl

/-- Entries in order, as they are seen. -/
theorem placed_seen {o : Outline String (Option String) Nat} {entries : List Entry}
    (hnumbers : o.placed.map Prod.snd = List.range entries.length) :
    (Catalogue.seen (o.fill entries)).placed.map Prod.fst = o.placed.map Prod.fst ∧
      (Catalogue.seen (o.fill entries)).placed.map Prod.snd = entries.map Entry.seen := by
  have hplaced : (Catalogue.seen (o.fill entries)).placed =
      o.placed.map fun q => (q.1, (entries[q.2]?.getD default).seen) := by
    unfold Seen.placed Catalogue.seen Outline.fill
    rw [flatMap_placed_map, flatMap_placed_map, List.map_map]
    rfl
  rw [hplaced, List.map_map, List.map_map]
  refine ⟨rfl, ?_⟩
  have hall : o.placed.map (fun q => (entries[q.2]?.getD default).seen) =
      (List.range entries.length).map fun number => (entries[number]?.getD default).seen := by
    rw [← hnumbers, List.map_map]
    rfl
  refine hall.trans (List.ext_getElem? fun number => ?_)
  rw [List.getElem?_map, List.getElem?_map]
  by_cases hlt : number < entries.length
  · rw [List.getElem?_range hlt, List.getElem?_eq_getElem hlt]
    show some ((entries[number]?).getD default).seen = _
    rw [List.getElem?_eq_getElem hlt]
    rfl
  · rw [List.getElem?_eq_none (by rw [List.length_range]; omega),
      List.getElem?_eq_none (by omega)]
    rfl

open Script in
/-- **What is seen is the manual of a source**: notes on the notation, if there are any, and behind
    them the written rules, each in the section that its script puts it in. -/
structure Seen.Describes (seen : Seen) (s : Source) (used : Rule → Bool) (script : Script) :
    Prop where
  notes : ∃ rest, seen = ((s.blurbOf Source.preambleName).map
      fun text => Passage.notes (TextDraft.comment text)).toList ++ rest ∧
    ∀ p ∈ rest, p.isNotes = false
  entries : seen.placed.map (fun q => (q.2.name, q.2.annotations)) =
    (s.rules.lexerRules.rules.filter used ++ s.rules.parserRules.rules).map
      fun r => (r.name, s.annotationsOf r)
  sections : seen.placed.map Prod.fst = script.sections
  groups : s.Groups used script

namespace Script.Source

variable {s : Source} {lexerItems parserItems : List Item} {m : UsageMap Nat}

/-- A source is known by what it was made from. -/
theorem eq_of_parts [PatternLanguage] {s s' : Source} (hrules : s.rules = s'.rules)
    (hsettings : s.settings = s'.settings) (hfiles : s.files = s'.files)
    (hpattern : Pattern.read s.settings.pattern = .ok s.pattern)
    (hpattern' : Pattern.read s'.settings.pattern = .ok s'.pattern) : s = s' := by
  obtain ⟨rules, settings, files, pattern⟩ := s
  obtain ⟨rules', settings', files', pattern'⟩ := s'
  subst hrules hsettings hfiles
  obtain rfl : pattern = pattern' := Except.ok.inj (hpattern.symm.trans hpattern')
  rfl

/-- The entries of some items as they are seen: names and annotations are those of the rules. -/
theorem seen_entries (s : Source) (items : List Item) (m : UsageMap Nat) :
    ((s.entries items m).map Entry.seen).map (fun e => (e.name, e.annotations)) =
      items.map fun i => (i.rule.name, s.annotationsOf i.rule) := by
  refine List.ext_getElem? fun number => ?_
  unfold entries
  rw [List.map_map, List.getElem?_map, List.getElem?_mapIdx, List.getElem?_map]
  cases items[number]? <;> rfl

/-- **The catalogue of a survey describes its source.** -/
theorem Survey.describes (hs : Survey s lexerItems parserItems m) {used : Rule → Bool}
    (hused : ∀ r, used r = m.isUsed r.name) {script : Script}
    {o : Outline String (Option String) Nat} (hheaded : o.Headed (s.blurbOf preambleName))
    (hsections : o.placed.map Prod.fst = script.sections)
    (hnumbers : o.placed.map Prod.snd =
      List.range (s.entries (lexerItems ++ parserItems) m).length)
    (hgroups : s.Groups used script) :
    (Catalogue.seen (o.fill (s.entries (lexerItems ++ parserItems) m))).Describes s used
      script := by
  obtain ⟨hplaces, hentries⟩ := placed_seen hnumbers
  refine ⟨?_, ?_, hplaces.trans hsections, hgroups⟩
  · obtain ⟨rest, hpassages, hrest⟩ := hheaded.passages
    unfold Catalogue.seen Outline.fill
    rw [hpassages, List.map_append, List.map_append]
    refine ⟨_, congrArg (· ++ _) ?_, fun p hp => ?_⟩
    · cases s.blurbOf preambleName <;> rfl
    · obtain ⟨q, hq, rfl⟩ := List.mem_map.mp hp
      obtain ⟨r, hr, rfl⟩ := List.mem_map.mp hq
      rw [Passage.isNotes_map, Passage.isNotes_map]
      exact hrest r hr
  · have hpairs : ∀ seen : Seen, seen.placed.map (fun q => (q.2.name, q.2.annotations)) =
        (seen.placed.map Prod.snd).map fun e => (e.name, e.annotations) := fun seen => by
      rw [List.map_map]
      rfl
    have hsame : used = fun r => m.isUsed r.name := funext hused
    rw [hpairs, hentries, s.seen_entries, hs.lexer, hs.parser, hsame, List.map_append,
      List.map_append, List.map_map, List.map_map]
    rfl

end Script.Source

open Script in
/-- **Both formats say the same.** If a manual is finished as XML, it is finished as text, and its
    tree and its blocks are read as the same: the same notes, the same sections in the same order,
    and in each the same entries with the same annotations, names, bodies and usages. -/
theorem formats_agree [PatternLanguage] {rules : RuleSet} {settings : Settings} {files : FileTree}
    {document : String} (h : (rules.manual .xml settings files).result = .ok document) :
    ∃ (s : Source) (seen : Seen), s.rules = rules ∧ s.settings = settings ∧ s.files = files ∧
      Pattern.read settings.pattern = .ok s.pattern ∧
      document = (rules.xmlDraft settings files).tree.document ∧
      (rules.xmlDraft settings files).tree.seen? = some seen ∧
      (rules.manual .text settings files).result = .ok (rules.textDraft settings files).toText ∧
      (rules.textDraft settings files).seen? (s.blurbOf Source.preambleName).isSome = some seen ∧
      seen.Describes s (fun r => s.recorded.isUsed r.name) (rules.script settings files) := by
  have hstop := (perform_ok h).1
  obtain ⟨s, hrules, hsettings, hfiles, hpattern, lexerItems, parserItems, m, inner, hwalks,
    hdraws, -, hsheets⟩ := RuleSet.script_draws hstop
  obtain ⟨s', hrules', hsettings', hfiles', hpattern', hgroups⟩ := script_groups_used hstop
  obtain rfl : s = s' := Source.eq_of_parts (hrules.trans hrules'.symm)
    (hsettings.trans hsettings'.symm) (hfiles.trans hfiles'.symm) (hsettings ▸ hpattern)
    (hsettings' ▸ hpattern')
  obtain ⟨hheaded, hsections, hnumbers⟩ := hdraws.placed
  obtain ⟨hxml, hdocument⟩ := hdraws.xml h
  obtain ⟨houtline, hitems, htext⟩ := hdraws.text
  have hlaid := s.isLaidOut_entries (lexerItems ++ parserItems) m
  rw [hwalks.survey.sheets_eq] at hsheets
  rw [hsheets, List.length_map] at hnumbers
  rw [hsheets] at hitems
  have htree : (rules.xmlDraft settings files).tree = _ :=
    xml_tree hxml (hdraws.sheets.trans hsheets) hlaid hnumbers
  refine ⟨s, _, hrules, hsettings, hfiles, hpattern, hdocument, ?_, htext,
    text_read houtline hitems hlaid hnumbers,
    hwalks.survey.describes (fun r => by rw [hwalks.recorded]) hheaded hsections hnumbers hgroups⟩
  rw [htree]
  exact Catalogue.element_read (Outline.forall_fill nofun hlaid)

/-- The manual of two tokens in a section and a rule outside. -/
theorem formats_agree_tokens : ∃ (document : String) (s : Script.Source) (seen : Seen),
    (RuleSet.markedTokens.manual .xml {} {}).result = .ok document ∧
      (RuleSet.markedTokens.xmlDraft {} {}).tree.seen? = some seen ∧
      (RuleSet.markedTokens.textDraft {} {}).seen? (s.blurbOf Script.Source.preambleName).isSome =
        some seen := by
  have hdone : (RuleSet.markedTokens.manual .xml {} {}).result.toBool = true := by decide +kernel
  cases h : (RuleSet.markedTokens.manual .xml {} {}).result with
  | error e =>
    rw [h] at hdone
    cases hdone
  | ok document =>
    obtain ⟨s, seen, -, -, -, -, -, hxml, -, htext, -⟩ := formats_agree h
    exact ⟨document, s, seen, rfl, hxml, htext⟩

end GrammarManual
