import GrammarManual.Proofs.Sections

/-!
# Proofs/Strokes: the strokes of a finished script

A course remembers the blurbs it has read and the messages it has left. Neither decides what is
drawn: this file gives the strokes of a script as a function of the items that are written.

* `Source.blurbOf`, `Source.Readable` -- the blurb of a section as it lies in the files;
* `Course.Faithful` -- the invariant of a course: what it remembers is what the files say;
* `itemsStrokes`, `Source.strokes` -- the strokes of some items, and of a whole manual;
* `writeItems_strokes`, **`write_strokes`** -- a run that comes to its end has drawn these strokes;
* `writeItems_total`, **`write_total`** -- a run comes to its end if its walks do and all blurbs can
  be read;
* `perform_congr` -- scripts with the same strokes give the same document on every easel.
-/

namespace GrammarManual

namespace Script

namespace Source

/-! ## 1. Strokes of items -/

/-- The blurb of a section; none if there is no file or it cannot be read. -/
def blurbOf (s : Source) (name : String) : Option String :=
  match readBlurb s.files s.settings.docsFolder name with
  | .ok text => text
  | .error _ => none

/-- Whether the blurb of a section can be read; a missing file says that there is none. -/
def Readable (s : Source) (name : String) : Prop :=
  ∃ text, readBlurb s.files s.settings.docsFolder name = .ok text

theorem readBlurb_eq {s : Source} {name : String} (h : s.Readable name) :
    readBlurb s.files s.settings.docsFolder name = .ok (s.blurbOf name) := by
  obtain ⟨text, htext⟩ := h
  rw [blurbOf, htext]

/-- What opens the section of an item. -/
def openingStrokes (s : Source) (current opens : Option String) : List Stroke :=
  match opens with
  | none => []
  | some name => if current = some name then [] else [.openSection name (s.blurbOf name)]

/-- What writes an item of a given number. -/
def itemStrokes (s : Source) (number : Nat) (i : Item) : List Stroke :=
  .addItem i.rule.fragment ::
    (i.markers (s.settings.startRules.contains i.rule.name)).map (.write number)

/-- What writes items, the first with number `number`, behind an item of the section `current`. -/
def itemsStrokes (s : Source) : Option String → Nat → List Item → List Stroke
  | _, _, [] => []
  | current, number, i :: is =>
    s.openingStrokes current i.opens ++ s.itemStrokes number i ++
      itemsStrokes s (i.opens.or current) (number + 1) is

/-- What lists usages. -/
def usageStrokes (blocks : List (Nat × List String)) : List Stroke :=
  blocks.map fun b => .write b.1 (.usages b.2)

/-- **The strokes of a manual** with the given items and usages. -/
def strokes (s : Source) (lexerItems parserItems : List Item) (m : UsageMap Nat) : List Stroke :=
  ((s.blurbOf preambleName).map Stroke.preamble).toList ++
    (.leaveSection :: s.itemsStrokes none 0 lexerItems) ++
    (.leaveSection :: s.itemsStrokes none lexerItems.length parserItems) ++
    usageStrokes (bound m 0 (lexerItems ++ parserItems)).flush

/-- Whether all blurbs that the manual of some items asks for can be read. -/
structure AllReadable (s : Source) (lexerItems parserItems : List Item) : Prop where
  preamble : s.Readable preambleName
  lexer : ∀ name text, .openSection name text ∈ s.itemsStrokes none 0 lexerItems →
    s.Readable name
  parser : ∀ name text, .openSection name text ∈ s.itemsStrokes none lexerItems.length parserItems →
    s.Readable name

end Source

/-! ## 2. Blurbs -/

/-- **What a course remembers of blurbs is what the files say.** -/
def Course.Faithful (s : Source) (c : Course) : Prop :=
  ∀ known ∈ c.blurbs, readBlurb s.files s.settings.docsFolder known.1 = .ok known.2

/-- What a faithful course remembers of one section. -/
theorem Course.Faithful.of_lookup {s : Source} {c : Course} (hc : c.Faithful s) {name : String}
    {text : Option String} (h : c.blurbs.lookup name = some text) :
    readBlurb s.files s.settings.docsFolder name = .ok text := by
  obtain ⟨above, below, hblurbs, -⟩ := List.lookup_eq_some_iff.mp h
  have hmem : (name, text) ∈ c.blurbs := by
    rw [hblurbs]
    exact List.mem_append_right _ List.mem_cons_self
  have hknown := hc _ hmem
  exact hknown

namespace Source

variable {s : Source}

/-- A blurb that was asked for is the one in the files. -/
theorem blurb_ok {name : String} {text : Option String} {c c' : Course} (hc : c.Faithful s)
    (h : runFrom (blurb s.files s.settings name) c = (.ok text, c')) :
    readBlurb s.files s.settings.docsFolder name = .ok text ∧ c'.Faithful s := by
  rcases blurb_cases h with ⟨hlookup, rfl⟩ | ⟨hfile, rfl⟩
  · exact ⟨hc.of_lookup hlookup, hc⟩
  · refine ⟨hfile, fun known hknown => ?_⟩
    rcases List.mem_append.mp hknown with hold | hnew
    · exact hc known hold
    · rw [List.mem_singleton.mp hnew]
      exact hfile

theorem blurb_total {name : String} {c : Course} (hc : c.Faithful s) (hr : s.Readable name) :
    ∃ c', runFrom (blurb s.files s.settings name) c = (.ok (s.blurbOf name), c') := by
  have hfile := readBlurb_eq hr
  rw [blurb_eq]
  cases hlookup : c.blurbs.lookup name with
  | some known =>
    have hknown := hc.of_lookup hlookup
    rw [hfile] at hknown
    rw [Except.ok.inj hknown]
    exact ⟨c, rfl⟩
  | none =>
    dsimp only
    rw [hfile]
    exact ⟨_, rfl⟩

/-! ## 3. Items -/

theorem say_faithful {level : Level} {text : String} {c c' : Course} (hc : c.Faithful s)
    (h : runFrom (say level text) c = (.ok (), c')) : c'.Faithful s := by
  cases h
  exact hc

theorem draw_faithful {stroke : Stroke} {c c' : Course} (hc : c.Faithful s)
    (h : runFrom (draw stroke) c = (.ok (), c')) : c'.Faithful s := by
  cases h
  exact hc

/-- What opening a section comes to. -/
theorem openSection_strokes {rule : String} {current opens next : Option String} {c c' : Course}
    (hc : c.Faithful s) (h : runFrom (s.openSection rule current opens) c = (.ok next, c')) :
    next = opens.or current ∧ c'.Faithful s ∧
      strokesOf c'.steps = strokesOf c.steps ++ s.openingStrokes current opens ∧
      ∀ name text, .openSection name text ∈ s.openingStrokes current opens → s.Readable name := by
  unfold openSection at h
  unfold openingStrokes
  cases opens with
  | none =>
    cases h
    exact ⟨rfl, hc, (List.append_nil _).symm, fun name text hm => absurd hm List.not_mem_nil⟩
  | some name =>
    dsimp only at h ⊢
    by_cases hcurrent : current = some name
    · rw [if_pos hcurrent] at h ⊢
      cases h
      exact ⟨hcurrent, hc, (List.append_nil _).symm,
        fun name text hm => absurd hm List.not_mem_nil⟩
    · rw [if_neg hcurrent] at h ⊢
      obtain ⟨_, c₁, hsay, h⟩ := runFrom_bind_eq_ok h
      obtain ⟨text, c₂, hblurb, h⟩ := runFrom_bind_eq_ok h
      obtain ⟨_, c₃, hdraw, h⟩ := runFrom_bind_eq_ok h
      cases h
      obtain ⟨hfile, hc₂⟩ := blurb_ok (say_faithful hc hsay) hblurb
      have htext : text = s.blurbOf name := by
        have h := readBlurb_eq ⟨text, hfile⟩
        rw [hfile] at h
        exact Except.ok.inj h
      have hsame := (blurb_strokes hblurb).trans (say_strokes hsay)
      refine ⟨rfl, draw_faithful hc₂ hdraw, ?_, fun name' text' hm => ?_⟩
      · rw [draw_strokes hdraw, hsame, htext]
      · cases List.mem_singleton.mp hm
        exact ⟨text, hfile⟩

theorem openSection_total (rule : String) {current opens : Option String} {c : Course}
    (hc : c.Faithful s)
    (hr : ∀ name text, .openSection name text ∈ s.openingStrokes current opens →
      s.Readable name) :
    ∃ next c', runFrom (s.openSection rule current opens) c = (.ok next, c') := by
  unfold openSection
  unfold openingStrokes at hr
  cases opens with
  | none => exact ⟨current, c, rfl⟩
  | some name =>
    dsimp only at hr ⊢
    by_cases hcurrent : current = some name
    · rw [if_pos hcurrent]
      exact ⟨current, c, rfl⟩
    · rw [if_neg hcurrent] at hr ⊢
      have hsay : runFrom (say .details ("Opening section '" ++ name ++ "' at rule " ++ rule)) c =
          (.ok (), _) := rfl
      obtain ⟨c₂, hblurb⟩ := blurb_total (say_faithful hc hsay) (hr name _ List.mem_cons_self)
      have hdraw : runFrom (draw (.openSection name (s.blurbOf name))) c₂ = (.ok (), _) := rfl
      rw [runFrom_bind_ok hsay, runFrom_bind_ok hblurb, runFrom_bind_ok hdraw]
      exact ⟨some name, _, rfl⟩

/-- An item is always written, under the next number. -/
theorem writeItem_total (s : Source) (i : Item) (c : Course) :
    ∃ c', runFrom (s.writeItem i) c = (.ok (), c') :=
  ⟨_, rfl⟩

theorem writeItem_strokes {i : Item} {c c' : Course}
    (h : runFrom (s.writeItem i) c = (.ok (), c')) :
    strokesOf c'.steps = strokesOf c.steps ++ s.itemStrokes c.items i ∧
      c'.items = c.items + 1 ∧ c'.blurbs = c.blurbs := by
  rw [writeItem_eq] at h
  cases h
  have hwrite : strokesOf ((i.markers (s.settings.startRules.contains i.rule.name)).map
      fun m => .draw (.write c.items m)) =
        (i.markers (s.settings.startRules.contains i.rule.name)).map (.write c.items) := by
    rw [strokesOf, List.filterMap_map]
    exact congrFun List.filterMap_eq_map' _
  refine ⟨?_, rfl, rfl⟩
  dsimp only
  rw [strokesOf_append, strokesOf_append, strokesOf_append, hwrite, List.append_assoc,
    List.append_assoc]
  rfl

/-- **Writing items draws their strokes**, and every blurb asked for could be read. -/
theorem writeItems_strokes {items : List Item} {current : Option String} {c c' : Course}
    (hc : c.Faithful s) (h : runFrom (s.writeItems current items) c = (.ok (), c')) :
    c'.Faithful s ∧
      strokesOf c'.steps = strokesOf c.steps ++ s.itemsStrokes current c.items items ∧
      ∀ name text, .openSection name text ∈ s.itemsStrokes current c.items items →
        s.Readable name := by
  induction items generalizing current c with
  | nil =>
    cases h
    exact ⟨hc, (List.append_nil _).symm, fun name text hm => absurd hm List.not_mem_nil⟩
  | cons i is ih =>
    obtain ⟨next, c₁, hopen, h⟩ := runFrom_bind_eq_ok h
    obtain ⟨_, c₂, hitem, h⟩ := runFrom_bind_eq_ok h
    obtain ⟨rfl, hc₁, hstrokes₁, hread₁⟩ := openSection_strokes hc hopen
    obtain ⟨hstrokes₂, hnumber, hblurbs⟩ := writeItem_strokes hitem
    have hc₂ : c₂.Faithful s := by
      unfold Course.Faithful
      rw [hblurbs]
      exact hc₁
    obtain ⟨hc', hstrokes, hread⟩ := ih hc₂ h
    have hcount : c₁.items = c.items := (openSection_quiet hopen).items
    rw [hnumber, hcount] at hstrokes hread
    rw [hcount] at hstrokes₂
    refine ⟨hc', ?_, fun name text hm => ?_⟩
    · rw [hstrokes, hstrokes₂, hstrokes₁, itemsStrokes]
      simp only [List.append_assoc]
    · rw [itemsStrokes] at hm
      rcases List.mem_append.mp hm with hm | hm
      · rcases List.mem_append.mp hm with hm | hm
        · exact hread₁ name text hm
        · simp [itemStrokes] at hm
      · exact hread name text hm

theorem writeItems_items {items : List Item} {current : Option String} {c c' : Course}
    (h : runFrom (s.writeItems current items) c = (.ok (), c')) :
    c'.items = c.items + items.length := by
  induction items generalizing current c with
  | nil =>
    cases h
    rfl
  | cons i is ih =>
    obtain ⟨next, c₁, hopen, h⟩ := runFrom_bind_eq_ok h
    obtain ⟨_, c₂, hitem, h⟩ := runFrom_bind_eq_ok h
    obtain ⟨-, hnumber, -⟩ := writeItem_strokes hitem
    have hcount : c₁.items = c.items := (openSection_quiet hopen).items
    rw [ih h, hnumber, hcount, List.length_cons]
    omega

theorem writeItems_total {items : List Item} (current : Option String) {c : Course}
    (hc : c.Faithful s)
    (hr : ∀ name text, .openSection name text ∈ s.itemsStrokes current c.items items →
      s.Readable name) :
    ∃ c', runFrom (s.writeItems current items) c = (.ok (), c') := by
  induction items generalizing current c with
  | nil => exact ⟨c, rfl⟩
  | cons i is ih =>
    rw [itemsStrokes] at hr
    have hr₁ : ∀ name text, .openSection name text ∈ s.openingStrokes current i.opens →
        s.Readable name := fun name text hm =>
      hr name text (List.mem_append_left _ (List.mem_append_left _ hm))
    obtain ⟨next, c₁, hopen⟩ := openSection_total i.rule.name hc hr₁
    obtain ⟨rfl, hc₁, -, -⟩ := openSection_strokes hc hopen
    obtain ⟨c₂, hitem⟩ := s.writeItem_total i c₁
    obtain ⟨-, hnumber, hblurbs⟩ := writeItem_strokes hitem
    have hcount : c₁.items = c.items := (openSection_quiet hopen).items
    have hc₂ : c₂.Faithful s := by
      unfold Course.Faithful
      rw [hblurbs]
      exact hc₁
    obtain ⟨c', hrest⟩ := ih _ hc₂ fun name text hm => by
      rw [hnumber, hcount] at hm
      exact hr name text (List.mem_append_right _ hm)
    exact ⟨c', by rw [writeItems, runFrom_bind_ok hopen, runFrom_bind_ok hitem, hrest]⟩

/-! ## 4. The whole script -/

theorem write_eq (s : Source) : s.write = (do
    modify fun c => { c with usages := .ofSymbols s.rules.names }
    let parserItems ← walking (s.documentParser s.rules.parserRules.rules)
    let lexerItems ← walking s.documentLexer
    s.skipNote lexerItems
    s.writeManual lexerItems parserItems) := rfl

theorem writeUsages_strokes {lexerItems parserItems : List Item} {c c' : Course}
    (h : runFrom (writeUsages lexerItems parserItems) c = (.ok (), c')) :
    strokesOf c'.steps = strokesOf c.steps ++ usageStrokes c.usages.flush := by
  obtain ⟨_, _, hget, h⟩ := runFrom_bind_eq_ok h
  cases hget
  obtain ⟨_, c₁, hflush, hsay⟩ := runFrom_bind_eq_ok h
  have hstrokes : strokesOf (c.usages.flush.map fun b => .draw (.write b.1 (.usages b.2))) =
      usageStrokes c.usages.flush := by
    rw [strokesOf, List.filterMap_map]
    exact congrFun List.filterMap_eq_map' _
  rw [say_strokes hsay, put_strokes hflush, ← hstrokes]

theorem writeUsages_total (lexerItems parserItems : List Item) (c : Course) :
    ∃ c', runFrom (writeUsages lexerItems parserItems) c = (.ok (), c') :=
  ⟨_, rfl⟩

/-- The strokes of the rules, written in a course without items, and of their usages. -/
theorem writeRules_strokes {lexerItems parserItems : List Item} {c c' : Course}
    (hc : c.Faithful s) (hsheets : c.sheets = []) (hitems : c.items = 0)
    (h : runFrom (s.writeRules lexerItems parserItems) c = (.ok (), c')) :
    strokesOf c'.steps = strokesOf c.steps ++
        ((.leaveSection :: s.itemsStrokes none 0 lexerItems) ++
          (.leaveSection :: s.itemsStrokes none lexerItems.length parserItems) ++
          usageStrokes (bound c.usages 0 (lexerItems ++ parserItems)).flush) ∧
      (∀ name text, .openSection name text ∈ s.itemsStrokes none 0 lexerItems →
        s.Readable name) ∧
      ∀ name text, .openSection name text ∈ s.itemsStrokes none lexerItems.length parserItems →
        s.Readable name := by
  obtain ⟨_, c₁, hleave, h⟩ := runFrom_bind_eq_ok h
  obtain ⟨_, c₂, hlexer, h⟩ := runFrom_bind_eq_ok h
  obtain ⟨_, c₃, hleave', h⟩ := runFrom_bind_eq_ok h
  obtain ⟨_, c₄, hparser, husage⟩ := runFrom_bind_eq_ok h
  -- numbers and usages
  have hq := draw_quiet (fun _ => rfl) hleave
  have hq' := draw_quiet (fun _ => rfl) hleave'
  have hsheets₁ : c₁.sheets = [] := hq.sheets.trans hsheets
  have hitems₁ : c₁.items = 0 := hq.items.trans hitems
  have hw := writeItems_run (by rw [hsheets₁, hitems₁]; rfl) hlexer
  have hcount : c₃.items = lexerItems.length := by
    rw [hq'.items, hw.count, hitems₁, Nat.zero_add]
  have hw' := writeItems_run (by
    rw [hq'.sheets, hcount, hw.sheets, hsheets₁, List.nil_append, List.length_map]) hparser
  have husages : c₄.usages = bound c.usages 0 (lexerItems ++ parserItems) := by
    rw [hw'.usages, hcount, hq'.usages, hw.usages, hq.usages, hitems₁, bound_append, Nat.zero_add]
  -- strokes
  obtain ⟨hc₂, hstrokes₂, hread⟩ := writeItems_strokes (draw_faithful hc hleave) hlexer
  obtain ⟨-, hstrokes₄, hread'⟩ := writeItems_strokes (draw_faithful hc₂ hleave') hparser
  rw [hitems₁] at hstrokes₂ hread
  rw [hcount] at hstrokes₄ hread'
  refine ⟨?_, hread, hread'⟩
  rw [writeUsages_strokes husage, husages, hstrokes₄, draw_strokes hleave', hstrokes₂,
    draw_strokes hleave]
  simp only [List.append_assoc, List.cons_append, List.nil_append]

theorem writeRules_total {lexerItems parserItems : List Item} {c : Course} (hc : c.Faithful s)
    (hitems : c.items = 0)
    (hlexer : ∀ name text, .openSection name text ∈ s.itemsStrokes none 0 lexerItems →
      s.Readable name)
    (hparser : ∀ name text,
      .openSection name text ∈ s.itemsStrokes none lexerItems.length parserItems →
        s.Readable name) :
    ∃ c', runFrom (s.writeRules lexerItems parserItems) c = (.ok (), c') := by
  have hleave : ∀ c : Course, runFrom (draw .leaveSection) c =
      (.ok (), { c with steps := c.steps ++ [.draw .leaveSection] }) := fun _ => rfl
  have hc₁ := draw_faithful hc (hleave c)
  obtain ⟨c₂, hwrite⟩ := writeItems_total none hc₁
    fun name text hm => hlexer name text (by rwa [← hitems])
  obtain ⟨hc₂, -, -⟩ := writeItems_strokes hc₁ hwrite
  have hc₃ := draw_faithful hc₂ (hleave c₂)
  have hitems₂ : c₂.items = lexerItems.length := by
    rw [writeItems_items hwrite]
    show c.items + lexerItems.length = lexerItems.length
    omega
  obtain ⟨c₄, hwrite'⟩ := writeItems_total none hc₃
    fun name text hm => hparser name text (by rwa [← hitems₂])
  obtain ⟨c₅, husage⟩ := writeUsages_total lexerItems parserItems c₄
  exact ⟨c₅, by
    rw [writeRules, runFrom_bind_ok (hleave c), runFrom_bind_ok hwrite,
      runFrom_bind_ok (hleave c₂), runFrom_bind_ok hwrite', husage]⟩

/-- The text that explains the notation is drawn, if there is one. -/
theorem preamble_strokes {text : Option String} {next : Unit → Writing Unit} {c c' : Course}
    (h : runFrom (match text with
      | some text => draw (.preamble text) >>= next
      | _ => next ()) c = (.ok (), c')) :
    ∃ c₁, c.Quiet c₁ ∧ c₁.blurbs = c.blurbs ∧
      strokesOf c₁.steps = strokesOf c.steps ++ (text.map Stroke.preamble).toList ∧
      runFrom (next ()) c₁ = (.ok (), c') := by
  cases text with
  | none => exact ⟨c, .refl c, rfl, (List.append_nil _).symm, h⟩
  | some text =>
    obtain ⟨_, c₁, hdraw, h⟩ := runFrom_bind_eq_ok h
    refine ⟨c₁, draw_quiet (fun _ => rfl) hdraw, ?_, draw_strokes hdraw, h⟩
    cases hdraw
    rfl

/-- **What is written behind the walks**: the strokes of the manual, all of whose blurbs could be
    read. -/
theorem writeManual_strokes {lexerItems parserItems : List Item} {c c' : Course}
    (hc : c.Faithful s) (hblank : strokesOf c.steps = []) (hitems : c.items = 0)
    (h : runFrom (s.writeManual lexerItems parserItems) c = (.ok (), c')) :
    strokesOf c'.steps = s.strokes lexerItems parserItems c.usages ∧
      s.AllReadable lexerItems parserItems := by
  obtain ⟨text, c₁, hblurb, h⟩ := runFrom_bind_eq_ok h
  dsimp only at h
  obtain ⟨c₂, hquiet, hblurbs, hstrokes, hrules⟩ := preamble_strokes h
  obtain ⟨hfile, hc₁⟩ := blurb_ok hc hblurb
  have htext : text = s.blurbOf preambleName := by
    have h := readBlurb_eq ⟨text, hfile⟩
    rw [hfile] at h
    exact Except.ok.inj h
  have hc₂ : c₂.Faithful s := by
    unfold Course.Faithful
    rw [hblurbs]
    exact hc₁
  have hq := (blurb_quiet hblurb).trans hquiet
  have hsheets : c₂.sheets = [] := by
    rw [hq.sheets]
    unfold Course.sheets sheetsAfter
    have hnone : c.steps.filterMap ManualStep.stroke? = [] := hblank
    rw [hnone]
    rfl
  obtain ⟨hall, hread, hread'⟩ := writeRules_strokes hc₂ hsheets (hq.items.trans hitems) hrules
  refine ⟨?_, ⟨text, hfile⟩, hread, hread'⟩
  rw [hall, hstrokes, blurb_strokes hblurb, hblank, hq.usages, htext, strokes]
  simp only [List.nil_append, List.append_assoc]

theorem writeManual_total {lexerItems parserItems : List Item} {c : Course} (hc : c.Faithful s)
    (hitems : c.items = 0) (hread : s.AllReadable lexerItems parserItems) :
    ∃ c', runFrom (s.writeManual lexerItems parserItems) c = (.ok (), c') := by
  obtain ⟨c₁, hblurb⟩ := blurb_total hc hread.preamble
  obtain ⟨-, hc₁⟩ := blurb_ok hc hblurb
  have hitems₁ : c₁.items = 0 := (blurb_quiet hblurb).items.trans hitems
  unfold writeManual
  rw [runFrom_bind_ok hblurb]
  cases s.blurbOf preambleName with
  | none => exact writeRules_total hc₁ hitems₁ hread.lexer hread.parser
  | some text =>
    have hdraw : runFrom (draw (.preamble text)) c₁ =
      (.ok (), { c₁ with steps := c₁.steps ++ [.draw (.preamble text)] }) := rfl
    dsimp only
    rw [runFrom_bind_ok hdraw]
    exact writeRules_total (draw_faithful hc₁ hdraw) hitems₁ hread.lexer hread.parser

/-! ## 5. Walks and scripts -/

/-- **What the walks of a run yield**: the items to write and the usages recorded. -/
def Walks (s : Source) (lexerItems parserItems : List Item) (m : UsageMap Nat) : Prop :=
  ∃ m₁, runFrom (s.documentParser s.rules.parserRules.rules) (.ofSymbols s.rules.names) =
      (.ok parserItems, m₁) ∧
    runFrom s.documentLexer m₁ = (.ok lexerItems, m)

theorem Walks.survey {lexerItems parserItems : List Item} {m : UsageMap Nat}
    (h : s.Walks lexerItems parserItems m) : Survey s lexerItems parserItems m := by
  obtain ⟨m₁, hparser, hlexer⟩ := h
  exact survey_of_walks hparser hlexer

theorem Walks.recorded {lexerItems parserItems : List Item} {m : UsageMap Nat}
    (h : s.Walks lexerItems parserItems m) : s.recorded = m := by
  obtain ⟨m₁, hparser, hlexer⟩ := h
  exact recorded_eq hparser hlexer

theorem walking_run {α : Type} {w : Walk Nat α} {c : Course} {a : α} {m : UsageMap Nat}
    (h : runFrom w c.usages = (.ok a, m)) :
    runFrom (walking w) c = (.ok a, { c with usages := m }) := by
  rw [walking_eq, h]
  rfl

theorem skipNote_total (s : Source) (items : List Item) (c : Course) :
    ∃ c', runFrom (s.skipNote items) c = (.ok (), c') := by
  obtain ⟨note, -, hskip⟩ := s.skipNote_eq items c
  exact ⟨_, hskip⟩

theorem skipNote_blurbs {items : List Item} {c c' : Course}
    (h : runFrom (s.skipNote items) c = (.ok (), c')) : c'.blurbs = c.blurbs := by
  obtain ⟨note, -, hskip⟩ := s.skipNote_eq items c
  rw [hskip] at h
  cases h
  rfl

/-- **A run that comes to its end has drawn the strokes of its items.** -/
theorem write_strokes {c : Course} (h : runFrom s.write {} = (.ok (), c)) :
    ∃ lexerItems parserItems m, s.Walks lexerItems parserItems m ∧
      s.AllReadable lexerItems parserItems ∧
      strokesOf c.steps = s.strokes lexerItems parserItems m := by
  rw [write_eq] at h
  obtain ⟨_, c₁, hseed, h⟩ := runFrom_bind_eq_ok h
  obtain ⟨parserItems, c₂, hparser, h⟩ := runFrom_bind_eq_ok h
  obtain ⟨lexerItems, c₃, hlexer, h⟩ := runFrom_bind_eq_ok h
  obtain ⟨_, c₄, hskip, hmanual⟩ := runFrom_bind_eq_ok h
  obtain ⟨m₁, hwalk, rfl⟩ := walking_ok hparser
  obtain ⟨m₂, hwalk', rfl⟩ := walking_ok hlexer
  cases hseed
  have hquiet := skipNote_quiet hskip
  have hfaithful : c₄.Faithful s := by
    intro known hknown
    rw [skipNote_blurbs hskip] at hknown
    cases hknown
  obtain ⟨hstrokes, hread⟩ :=
    writeManual_strokes hfaithful (skipNote_strokes hskip) hquiet.items hmanual
  rw [hquiet.usages] at hstrokes
  exact ⟨lexerItems, parserItems, m₂, ⟨m₁, hwalk, hwalk'⟩, hread, hstrokes⟩

/-- **A run comes to its end if its walks do and all its blurbs can be read.** -/
theorem write_total {lexerItems parserItems : List Item} {m : UsageMap Nat}
    (hw : s.Walks lexerItems parserItems m) (hread : s.AllReadable lexerItems parserItems) :
    ∃ c, runFrom s.write {} = (.ok (), c) ∧
      strokesOf c.steps = s.strokes lexerItems parserItems m := by
  obtain ⟨m₁, hparser, hlexer⟩ := hw
  have hseed : runFrom (modify fun c : Course => { c with usages := .ofSymbols s.rules.names } :
      Writing Unit) {} = (.ok (), { usages := .ofSymbols s.rules.names }) := rfl
  obtain ⟨c₄, hskip⟩ := s.skipNote_total lexerItems { usages := m }
  have hquiet := skipNote_quiet hskip
  have hfaithful : c₄.Faithful s := by
    intro known hknown
    rw [skipNote_blurbs hskip] at hknown
    cases hknown
  obtain ⟨c, hmanual⟩ := writeManual_total hfaithful hquiet.items hread
  obtain ⟨hstrokes, -⟩ :=
    writeManual_strokes hfaithful (skipNote_strokes hskip) hquiet.items hmanual
  rw [hquiet.usages] at hstrokes
  refine ⟨c, ?_, hstrokes⟩
  rw [write_eq, runFrom_bind_ok hseed, runFrom_bind_ok (walking_run hparser),
    runFrom_bind_ok (walking_run hlexer), runFrom_bind_ok hskip, hmanual]

end Source

end Script

open Script in
/-- **A script that comes to its end draws the strokes of a manual**, and these leave the sheets of
    its items. -/
theorem RuleSet.script_strokes [PatternLanguage] {rules : RuleSet} {settings : Settings}
    {files : FileTree}
    (h : (rules.script settings files).stop = none) :
    ∃ s : Source, s.rules = rules ∧ s.settings = settings ∧ s.files = files ∧
      Pattern.read settings.pattern = .ok s.pattern ∧
      ∃ lexerItems parserItems m, s.Walks lexerItems parserItems m ∧
        s.AllReadable lexerItems parserItems ∧
        strokesOf (rules.script settings files).steps =
          .begin :: s.strokes lexerItems parserItems m ∧
        (rules.script settings files).sheets = s.finalSheets (lexerItems ++ parserItems) m := by
  obtain ⟨s, rfl, rfl, rfl, hpattern, lexerItems, parserItems, hsurvey, hsheets⟩ :=
    RuleSet.script_sheets h
  refine ⟨s, rfl, rfl, rfl, hpattern, lexerItems, parserItems, s.recorded, ?_⟩
  unfold RuleSet.script at h hsheets ⊢
  rw [hpattern] at h hsheets ⊢
  dsimp only at h hsheets ⊢
  cases hw : runFrom s.write {} with
  | mk result c =>
    have hw' : s.write.run.run {} = (result, c) := hw
    rw [hw'] at h hsheets ⊢
    cases result with
    | error e => cases h
    | ok _ =>
      obtain ⟨lexerItems', parserItems', m, hwalks, hread, hstrokes⟩ := Source.write_strokes hw
      have hrecorded := hwalks.recorded
      subst hrecorded
      -- a survey determines its items
      obtain rfl : lexerItems = lexerItems' := hsurvey.lexer.trans hwalks.survey.lexer.symm
      obtain rfl : parserItems = parserItems' := hsurvey.parser.trans hwalks.survey.parser.symm
      exact ⟨hwalks, hread, congrArg (Stroke.begin :: ·) hstrokes, hsheets⟩

open Script in
/-- **A script comes to its end if its walks do and all its blurbs can be read.** -/
theorem RuleSet.script_total [PatternLanguage] {s : Source} {lexerItems parserItems : List Item}
    {m : UsageMap Nat}
    (hpattern : Pattern.read s.settings.pattern = .ok s.pattern)
    (hw : s.Walks lexerItems parserItems m) (hread : s.AllReadable lexerItems parserItems) :
    (s.rules.script s.settings s.files).stop = none ∧
      strokesOf (s.rules.script s.settings s.files).steps =
        .begin :: s.strokes lexerItems parserItems m := by
  obtain ⟨c, hrun, hstrokes⟩ := Source.write_total hw hread
  have hrun' : s.write.run.run {} = (.ok (), c) := hrun
  unfold RuleSet.script
  rw [hpattern]
  dsimp only
  rw [hrun']
  exact ⟨rfl, congrArg (Stroke.begin :: ·) hstrokes⟩

namespace Script

/-! ## 6. Performances -/

/-- Draws strokes in order, up to the first that fails. -/
def drawStrokes (e : Easel) (base : Nat) :
    List Stroke → e.State → e.State × Option StrokeError
  | [], state => (state, none)
  | s :: strokes, state =>
    match e.step state (s.shift base) with
    | (state', some err) => (state', some err)
    | (state', none) => drawStrokes e base strokes state'

/-- Strokes are all drawn only if the first is and the others are after it. -/
theorem drawStrokes_cons {e : Easel} {base : Nat} {s : Stroke} {strokes : List Stroke}
    {state state' : e.State} (h : drawStrokes e base (s :: strokes) state = (state', none)) :
    ∃ next, e.step state (s.shift base) = (next, none) ∧
      drawStrokes e base strokes next = (state', none) := by
  rw [drawStrokes] at h
  rcases hs : e.step state (s.shift base) with ⟨next, _ | err⟩
  · rw [hs] at h
    exact ⟨next, rfl, h⟩
  · rw [hs] at h
    cases h

/-- Messages decide neither what is drawn nor where it fails. -/
theorem performSteps_strokes (e : Easel) (base : Nat) (steps : List ManualStep)
    (state : e.State) :
    ∃ log, performSteps e base steps state =
      ((drawStrokes e base (strokesOf steps) state).1, log,
        (drawStrokes e base (strokesOf steps) state).2) := by
  induction steps generalizing state with
  | nil => exact ⟨[], rfl⟩
  | cons step steps ih =>
    cases step with
    | say m =>
      obtain ⟨log, hlog⟩ := ih state
      refine ⟨m :: log, ?_⟩
      rw [performSteps, hlog]
      rfl
    | draw stroke =>
      have hstrokes : strokesOf (.draw stroke :: steps) = stroke :: strokesOf steps := rfl
      rw [hstrokes, performSteps, drawStrokes]
      rcases hs : e.step state (stroke.shift base) with ⟨state', _ | err⟩
      · exact ih state'
      · exact ⟨[], rfl⟩

/-- A document is finished once all strokes of its script have been drawn. -/
theorem perform_drawn {e : Easel} {script : Script} {state : e.State} {document : String}
    (h : (script.perform e state).2.result = .ok document) :
    drawStrokes e (e.itemCount state) (strokesOf script.steps) state =
        ((script.perform e state).1, none) ∧
      document = e.finish (script.perform e state).1 := by
  obtain ⟨log, hlog⟩ := performSteps_strokes e (e.itemCount state) script.steps state
  unfold perform at h ⊢
  rw [hlog] at h ⊢
  rcases hdrawn : drawStrokes e (e.itemCount state) (strokesOf script.steps) state with ⟨d, err⟩
  rw [hdrawn] at h
  cases err with
  | some err => cases h
  | none =>
    cases hstop : script.stop with
    | some stop =>
      rw [hstop] at h
      cases h
    | none =>
      rw [hstop] at h
      exact ⟨rfl, (Except.ok.inj h).symm⟩

/-- A script that comes to its end is finished if all its strokes can be drawn. -/
theorem perform_of_drawn {e : Easel} {script : Script} {state drawn : e.State}
    (hstop : script.stop = none)
    (h : drawStrokes e (e.itemCount state) (strokesOf script.steps) state = (drawn, none)) :
    (script.perform e state).1 = drawn ∧
      (script.perform e state).2.result = .ok (e.finish drawn) := by
  obtain ⟨log, hlog⟩ := performSteps_strokes e (e.itemCount state) script.steps state
  unfold perform
  rw [hlog, h, hstop]
  exact ⟨rfl, rfl⟩

/-- **A performance is decided by the strokes of its script** and by what ends it. -/
theorem perform_congr (e : Easel) {script other : Script} (state : e.State)
    (hstrokes : strokesOf script.steps = strokesOf other.steps) (hstop : script.stop = other.stop) :
    (script.perform e state).1 = (other.perform e state).1 ∧
      (script.perform e state).2.result = (other.perform e state).2.result := by
  obtain ⟨log, hlog⟩ := performSteps_strokes e (e.itemCount state) script.steps state
  obtain ⟨log', hlog'⟩ := performSteps_strokes e (e.itemCount state) other.steps state
  rw [hstrokes] at hlog
  unfold perform
  rw [hlog, hlog', hstop]
  dsimp only
  cases (drawStrokes e (e.itemCount state) (strokesOf other.steps) state).2 with
  | some err => exact ⟨rfl, rfl⟩
  | none => cases other.stop <;> exact ⟨rfl, rfl⟩

end Script

end GrammarManual
