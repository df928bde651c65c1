import GrammarManual.Proofs.Strokes

/-!
# Proofs/Sketch: documents of no format

The formats keep different books. XML has a container that takes new items; the text has a flag and
writes a line where a section ends. This file describes a document under way without a format.

* `Passage`, `Outline` -- the passages of a document, the last of which may be a chapter under way.
  They are made of whatever a reader knows of notes, blurbs and entries;
* `Sketch`, `Stroke.onSketch` -- the outline and the sheets of a document, and what a stroke does to
  them;
* `Sketch.Placed` -- a sketch holds every item once, in order, in the section that is open;
* `Script.Draws`, **`RuleSet.script_draws`** -- a script that comes to its end draws a whole
  document.
-/

namespace GrammarManual

/-! ## 1. Outlines -/

/-- A section with its entries. -/
structure Chapter (β α : Type) where
  name : String
  blurb : β
  entries : List α
  deriving DecidableEq, Repr

/-- A child of the root of a document. -/
inductive Passage (ν β α : Type) where
  /-- The text that explains the notation. -/
  | notes (text : ν)
  | entry (a : α)
  | chapter (c : Chapter β α)
  deriving DecidableEq, Repr

/-- The passages of a document under way. New entries go to the current chapter, if there is one. -/
structure Outline (ν β α : Type) where
  before : List (Passage ν β α) := []
  current : Option (Chapter β α) := none
  deriving DecidableEq, Repr

variable {ν β α ν' β' α' : Type}

/-- A chapter with other blurbs and entries. -/
def Chapter.map (g : β → β') (h : α → α') (c : Chapter β α) : Chapter β' α' where
  name := c.name
  blurb := g c.blurb
  entries := c.entries.map h

/-- A passage with other notes, blurbs and entries. -/
def Passage.map (f : ν → ν') (g : β → β') (h : α → α') : Passage ν β α → Passage ν' β' α'
  | .notes text => .notes (f text)
  | .entry a => .entry (h a)
  | .chapter c => .chapter (c.map g h)

/-- The entries of a passage with the chapter of each. -/
def Passage.placed : Passage ν β α → List (Option String × α)
  | .notes _ => []
  | .entry a => [(none, a)]
  | .chapter c => c.entries.map fun a => (some c.name, a)

theorem Passage.placed_map (f : ν → ν') (g : β → β') (h : α → α') (p : Passage ν β α) :
    (p.map f g h).placed = p.placed.map fun q => (q.1, h q.2) := by
  cases p with
  | notes text => rfl
  | entry a => rfl
  | chapter c =>
    show (c.entries.map h).map _ = (c.entries.map _).map _
    rw [List.map_map, List.map_map]
    rfl

/-- Whether a passage is no chapter and no entry. -/
def Passage.isNotes : Passage ν β α → Bool
  | .notes _ => true
  | _ => false

namespace Outline

/-- All passages, from first to last. -/
def passages (o : Outline ν β α) : List (Passage ν β α) :=
  o.before ++ (o.current.map Passage.chapter).toList

/-- Adds notes, which belong to no chapter. -/
def note (o : Outline ν β α) (text : ν) : Outline ν β α :=
  { o with before := o.before ++ [.notes text] }

/-- Begins a chapter. -/
def enter (o : Outline ν β α) (name : String) (blurb : β) : Outline ν β α where
  before := o.passages
  current := some { name, blurb, entries := [] }

/-- Ends the current chapter. -/
def leave (o : Outline ν β α) : Outline ν β α where
  before := o.passages

/-- Adds an entry. -/
def add (o : Outline ν β α) (a : α) : Outline ν β α :=
  match o.current with
  | some c => { o with current := some { c with entries := c.entries ++ [a] } }
  | none => { o with before := o.before ++ [.entry a] }

/-- The outline with other notes, blurbs and entries. -/
def map (f : ν → ν') (g : β → β') (h : α → α') (o : Outline ν β α) : Outline ν' β' α' where
  before := o.before.map (Passage.map f g h)
  current := o.current.map (Chapter.map g h)

section Map

variable (f : ν → ν') (g : β → β') (h : α → α') (o : Outline ν β α)

theorem passages_map : (o.map f g h).passages = o.passages.map (Passage.map f g h) := by
  unfold passages map
  cases o.current <;> simp [Passage.map]

theorem enter_map (name : String) (blurb : β) :
    (o.enter name blurb).map f g h = (o.map f g h).enter name (g blurb) := by
  unfold enter
  rw [passages_map]
  rfl

theorem leave_map : o.leave.map f g h = (o.map f g h).leave := by
  unfold leave
  rw [passages_map]
  rfl

theorem add_map (a : α) : (o.add a).map f g h = (o.map f g h).add (h a) := by
  unfold add map
  cases o.current <;> simp [Chapter.map, Passage.map]

end Map

/-- The entries of an outline with the chapter of each. -/
def placed (o : Outline ν β α) : List (Option String × α) := o.passages.flatMap Passage.placed

theorem placed_enter (o : Outline ν β α) (name : String) (blurb : β) :
    (o.enter name blurb).placed = o.placed := by
  unfold placed enter passages
  simp [Passage.placed]

theorem placed_leave (o : Outline ν β α) : o.leave.placed = o.placed := by
  unfold placed leave passages
  simp

theorem placed_add (o : Outline ν β α) (a : α) :
    (o.add a).placed = o.placed ++ [(o.current.map Chapter.name, a)] := by
  unfold placed add passages
  cases o.current <;> simp [Passage.placed]

theorem current_add (o : Outline ν β α) (a : α) :
    (o.add a).current.map Chapter.name = o.current.map Chapter.name := by
  unfold add
  split
  · rename_i c hc
    rw [hc]
    rfl
  · rfl

/-- Some notes, and no others behind them. -/
def Headed (o : Outline ν β α) (notes : Option ν) : Prop :=
  ∃ rest, o.before = (notes.map Passage.notes).toList ++ rest ∧ ∀ p ∈ rest, p.isNotes = false

theorem Headed.passages {o : Outline ν β α} {notes : Option ν} (h : o.Headed notes) :
    ∃ rest, o.passages = (notes.map Passage.notes).toList ++ rest ∧
      ∀ p ∈ rest, p.isNotes = false := by
  obtain ⟨rest, hbefore, hrest⟩ := h
  refine ⟨rest ++ (o.current.map Passage.chapter).toList, ?_, fun p hp => ?_⟩
  · unfold Outline.passages
    rw [hbefore, List.append_assoc]
  · rcases List.mem_append.mp hp with hp | hp
    · exact hrest p hp
    · cases hc : o.current with
      | none =>
        rw [hc] at hp
        cases hp
      | some c =>
        rw [hc] at hp
        rw [List.mem_singleton.mp hp]
        rfl

theorem Headed.enter {o : Outline ν β α} {notes : Option ν} (h : o.Headed notes) (name : String)
    (blurb : β) : (o.enter name blurb).Headed notes :=
  h.passages

theorem Headed.leave {o : Outline ν β α} {notes : Option ν} (h : o.Headed notes) :
    o.leave.Headed notes :=
  h.passages

theorem Headed.add {o : Outline ν β α} {notes : Option ν} (h : o.Headed notes) (a : α) :
    (o.add a).Headed notes := by
  obtain ⟨rest, hbefore, hrest⟩ := h
  unfold Outline.add
  split
  · exact ⟨rest, hbefore, hrest⟩
  · refine ⟨rest ++ [.entry a], ?_, fun p hp => ?_⟩
    · show o.before ++ [.entry a] = _
      rw [hbefore, List.append_assoc]
    · rcases List.mem_append.mp hp with hp | hp
      · exact hrest p hp
      · rw [List.mem_singleton.mp hp]
        rfl

theorem leave_of_none {o : Outline ν β α} (ho : o.current = none) : o.leave = o := by
  unfold leave passages
  rw [ho]
  show Outline.mk (o.before ++ []) none = o
  rw [List.append_nil, ← ho]

end Outline

/-! ## 2. Sketches -/

/-- A document under way, of no format: its passages, with the numbers of the items for entries, and
    the sheets of all items. -/
structure Sketch where
  outline : Outline String (Option String) Nat := {}
  sheets : List Sheet := []

/-- What a stroke does to a sketch. -/
def Stroke.onSketch (k : Sketch) (s : Stroke) : Sketch where
  outline :=
    match s with
    | .begin => {}
    | .preamble text => k.outline.note text
    | .openSection name blurb => k.outline.enter name blurb
    | .leaveSection => k.outline.leave
    | .addItem _ => k.outline.add k.sheets.length
    | .write _ _ => k.outline
  sheets := s.onSheets k.sheets

/-- The sketch of a script. -/
def Script.sketch (script : Script) : Sketch :=
  (strokesOf script.steps).foldl Stroke.onSketch {}

/-- Strokes behind the notes of a document. -/
def Stroke.isInner : Stroke → Bool
  | .begin => false
  | .preamble _ => false
  | _ => true

theorem sheets_sketch (strokes : List Stroke) (k : Sketch) :
    (strokes.foldl Stroke.onSketch k).sheets = strokes.foldl Stroke.onSheets k.sheets := by
  induction strokes generalizing k with
  | nil => rfl
  | cons s strokes ih => exact ih (s.onSketch k)

/-- A sketch holds its items in order, each in its section, behind its notes. -/
structure Sketch.Placed (k : Sketch) (notes : Option String) (g : Grouping) : Prop where
  headed : k.outline.Headed notes
  current : k.outline.current.map Chapter.name = g.current
  sections : k.outline.placed.map Prod.fst = g.items
  numbers : k.outline.placed.map Prod.snd = List.range k.sheets.length

theorem Sketch.Placed.step {k : Sketch} {notes : Option String} {g : Grouping}
    (h : k.Placed notes g) {s : Stroke} (hs : s.isInner = true) :
    (s.onSketch k).Placed notes (s.onGrouping g) := by
  cases s with
  | begin => cases hs
  | preamble text => cases hs
  | openSection name blurb =>
    refine ⟨h.headed.enter name blurb, rfl, ?_, ?_⟩
    · exact (congrArg (List.map Prod.fst) (k.outline.placed_enter name blurb)).trans h.sections
    · exact (congrArg (List.map Prod.snd) (k.outline.placed_enter name blurb)).trans h.numbers
  | leaveSection =>
    refine ⟨h.headed.leave, rfl, ?_, ?_⟩
    · exact (congrArg (List.map Prod.fst) k.outline.placed_leave).trans h.sections
    · exact (congrArg (List.map Prod.snd) k.outline.placed_leave).trans h.numbers
  | addItem helper =>
    have hcount : (Stroke.onSheets k.sheets (.addItem helper)).length = k.sheets.length + 1 := by
      rw [Stroke.onSheets, List.length_append, List.length_singleton]
    refine ⟨h.headed.add _, ?_, ?_, ?_⟩
    · exact (k.outline.current_add _).trans h.current
    · show (k.outline.add _).placed.map Prod.fst = g.items ++ [g.current]
      rw [Outline.placed_add, List.map_append, h.sections, h.current]
      rfl
    · show (k.outline.add _).placed.map Prod.snd =
        List.range (Stroke.onSheets k.sheets (.addItem helper)).length
      rw [Outline.placed_add, List.map_append, h.numbers, hcount, List.range_succ]
      rfl
  | write number mark =>
    refine ⟨h.headed, h.current, h.sections, ?_⟩
    show k.outline.placed.map Prod.snd = List.range (k.sheets.modify number _).length
    rw [List.length_modify]
    exact h.numbers

/-! ## 3. Scripts -/

/-- The strokes of a whole document: it is begun, notes come first, and what follows is inner. -/
structure Script.Draws (script : Script) (notes : Option String) (inner : List Stroke) : Prop where
  strokes : strokesOf script.steps = .begin :: ((notes.map Stroke.preamble).toList ++ inner)
  inner : ∀ s ∈ inner, s.isInner = true
  stop : script.stop = none

/-- The sketch of a document that has no more than its notes. -/
def Sketch.begun (notes : Option String) : Sketch where
  outline := notes.elim {} (Outline.note {})

namespace Script.Draws

variable {script : Script} {notes : Option String} {inner : List Stroke}

theorem sketch (h : script.Draws notes inner) :
    script.sketch = inner.foldl Stroke.onSketch (.begun notes) := by
  unfold Script.sketch
  rw [h.strokes, List.foldl_cons, List.foldl_append]
  cases notes <;> rfl

theorem sheets (_ : script.Draws notes inner) : script.sketch.sheets = script.sheets := by
  unfold Script.sketch
  rw [sheets_sketch]
  rfl

/-- **A run of strokes keeps items in order**, each in its section. -/
theorem placed_run {strokes : List Stroke} (hs : ∀ s ∈ strokes, s.isInner = true) {k : Sketch}
    {g : Grouping} (hk : k.Placed notes g) :
    (strokes.foldl Stroke.onSketch k).Placed notes (strokes.foldl Stroke.onGrouping g) := by
  induction strokes generalizing k g with
  | nil => exact hk
  | cons s strokes ih =>
    exact ih (fun q hq => hs q (List.mem_cons_of_mem _ hq)) (hk.step (hs s List.mem_cons_self))

/-- The items of a document stand where its script has put them, behind the notes. -/
theorem placed (h : script.Draws notes inner) :
    script.sketch.outline.Headed notes ∧
      script.sketch.outline.placed.map Prod.fst = script.sections ∧
      script.sketch.outline.placed.map Prod.snd = List.range script.sheets.length := by
  have hbegun : (Sketch.begun notes).Placed notes {} := by
    cases notes with
    | none => exact ⟨⟨[], rfl, nofun⟩, rfl, rfl, rfl⟩
    | some text => exact ⟨⟨[], rfl, nofun⟩, rfl, rfl, rfl⟩
  have hend := placed_run h.inner hbegun
  have hgrouping : (strokesOf script.steps).foldl Stroke.onGrouping {} =
      inner.foldl Stroke.onGrouping {} := by
    rw [h.strokes, List.foldl_cons, List.foldl_append]
    cases notes <;> rfl
  rw [← h.sketch] at hend
  refine ⟨hend.headed, ?_, ?_⟩
  · rw [hend.sections, Script.sections, hgrouping]
  · rw [hend.numbers, h.sheets]

end Script.Draws

namespace Script.Source

variable {s : Source}

/-- What writes items: each opens its section with the blurb, or is added, or has its marks
    written. -/
theorem mem_itemsStrokes {items : List Item} {current : Option String} {number : Nat}
    {stroke : Stroke} (h : stroke ∈ s.itemsStrokes current number items) :
    ∃ i ∈ items, (∃ name, i.opens = some name ∧ stroke = .openSection name (s.blurbOf name)) ∨
      stroke = .addItem i.rule.fragment ∨
      ∃ item, ∃ mark ∈ i.markers (s.settings.startRules.contains i.rule.name),
        stroke = .write item mark := by
  induction items generalizing current number with
  | nil => cases h
  | cons i is ih =>
    rw [itemsStrokes] at h
    rcases List.mem_append.mp h with h | h
    · refine ⟨i, List.mem_cons_self, ?_⟩
      rcases List.mem_append.mp h with h | h
      · unfold openingStrokes at h
        split at h
        · cases h
        · rename_i name hopens
          split at h
          · cases h
          · exact .inl ⟨name, hopens, List.mem_singleton.mp h⟩
      · rcases List.mem_cons.mp h with rfl | h
        · exact .inr (.inl rfl)
        · obtain ⟨mark, hmark, rfl⟩ := List.mem_map.mp h
          exact .inr (.inr ⟨number, mark, hmark, rfl⟩)
    · obtain ⟨i', hi', hstroke⟩ := ih h
      exact ⟨i', List.mem_cons_of_mem i hi', hstroke⟩

theorem isInner_of_mem_itemsStrokes {items : List Item} {current : Option String} {number : Nat}
    {stroke : Stroke} (h : stroke ∈ s.itemsStrokes current number items) :
    stroke.isInner = true := by
  obtain ⟨i, -, ⟨name, -, rfl⟩ | rfl | ⟨item, mark, -, rfl⟩⟩ := mem_itemsStrokes h <;> rfl

/-- Behind the notes of a manual there are inner strokes alone, and sections are opened with their
    blurbs. -/
theorem strokes_inner (s : Source) (lexerItems parserItems : List Item) (m : UsageMap Nat) :
    ∃ inner, s.strokes lexerItems parserItems m =
        ((s.blurbOf preambleName).map Stroke.preamble).toList ++ inner ∧
      (∀ stroke ∈ inner, stroke.isInner = true) ∧
      ∀ name blurb, .openSection name blurb ∈ inner → blurb = s.blurbOf name := by
  have hitems : ∀ {items current number name blurb},
      .openSection name blurb ∈ s.itemsStrokes current number items → blurb = s.blurbOf name := by
    intro items current number name blurb h
    obtain ⟨i, -, ⟨_, -, hopen⟩ | hadd | ⟨_, _, -, hwrite⟩⟩ := mem_itemsStrokes h
    · cases hopen
      rfl
    · cases hadd
    · cases hwrite
  refine ⟨(.leaveSection :: s.itemsStrokes none 0 lexerItems) ++
    (.leaveSection :: s.itemsStrokes none lexerItems.length parserItems) ++
    usageStrokes (bound m 0 (lexerItems ++ parserItems)).flush, ?_, fun stroke h => ?_,
    fun name blurb h => ?_⟩
  · unfold strokes
    simp only [List.append_assoc]
  · rcases List.mem_append.mp h with h | h
    · rcases List.mem_append.mp h with h | h
      · rcases List.mem_cons.mp h with rfl | h
        · rfl
        · exact isInner_of_mem_itemsStrokes h
      · rcases List.mem_cons.mp h with rfl | h
        · rfl
        · exact isInner_of_mem_itemsStrokes h
    · obtain ⟨b, -, rfl⟩ := List.mem_map.mp h
      rfl
  · rcases List.mem_append.mp h with h | h
    · rcases List.mem_append.mp h with h | h
      · exact hitems ((List.mem_cons.mp h).resolve_left nofun)
      · exact hitems ((List.mem_cons.mp h).resolve_left nofun)
    · obtain ⟨b, -, hb⟩ := List.mem_map.mp h
      cases hb

end Script.Source

open Script in
/-- **A script that comes to its end draws a whole document**, the sheets of a survey. -/
theorem RuleSet.script_draws [PatternLanguage] {rules : RuleSet} {settings : Settings}
    {files : FileTree}
    (h : (rules.script settings files).stop = none) :
    ∃ s : Source, s.rules = rules ∧ s.settings = settings ∧ s.files = files ∧
      Pattern.read settings.pattern = .ok s.pattern ∧
      ∃ lexerItems parserItems m inner, s.Walks lexerItems parserItems m ∧
        (rules.script settings files).Draws (s.blurbOf Source.preambleName) inner ∧
        (∀ name blurb, .openSection name blurb ∈ inner → blurb = s.blurbOf name) ∧
        (rules.script settings files).sheets = s.finalSheets (lexerItems ++ parserItems) m := by
  obtain ⟨s, hrules, hsettings, hfiles, hpattern, lexerItems, parserItems, m, hwalks, -, hstrokes,
    hsheets⟩ := RuleSet.script_strokes h
  obtain ⟨inner, hsplit, hinner, hblurbs⟩ := s.strokes_inner lexerItems parserItems m
  exact ⟨s, hrules, hsettings, hfiles, hpattern, lexerItems, parserItems, m, inner, hwalks,
    ⟨hsplit ▸ hstrokes, hinner, h⟩, hblurbs, hsheets⟩

end GrammarManual
