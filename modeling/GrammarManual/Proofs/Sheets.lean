import GrammarManual.Document.Manual
import GrammarManual.Proofs.Lines
import GrammarManual.Proofs.Survey

/-!
# Proofs/Sheets: what ends up on each item

Every format keeps, for each item, the marks written on it. A `Sheet` is that list of marks,
whatever the format:

* `Stroke.onSheets`, `Script.sheets` -- what a stroke does to the sheets, and the sheets a script
  leaves;
* `blurb_eq`, `walking_eq`, `skipNote_eq` -- what the steps of a script that touch no item come to;
* `writeItems_run` -- writing items adds one sheet for each and binds its name;
* **`script_sheets`** -- a script that comes to its end leaves the sheets of the rules of its
  survey, each with the usages that are flushed to it;
* `perform_ok` -- a manual is only finished if its script comes to its end.
-/

namespace GrammarManual

/-! ## 1. Sheets -/

/-- The marks written on one item, in order. -/
abbrev Sheet := List Marker

namespace Sheet

/-- The name that a sheet declares. -/
def name? (sheet : Sheet) : Option String :=
  sheet.findSome? fun mark => match mark with
    | .declaration name => some name
    | _ => none

/-- The marks of the description. -/
def description (sheet : Sheet) : List Marker :=
  ((sheet.dropWhile (· ≠ .description)).drop 1).takeWhile (· ≠ .endDescription)

/-- The usages blocks, each with the names it lists. -/
def usages (sheet : Sheet) : List (List String) :=
  sheet.filterMap fun mark => match mark with
    | .usages names => some names
    | _ => none

end Sheet

/-- What a stroke does to the sheets of the items. -/
def Stroke.onSheets (sheets : List Sheet) : Stroke → List Sheet
  | .addItem helper => sheets ++ [if helper then [.remark "helper"] else []]
  | .write item mark => sheets.modify item (· ++ [mark])
  | _ => sheets

/-- The stroke of a step, if it is one. -/
def ManualStep.stroke? : ManualStep → Option Stroke
  | .draw s => some s
  | .say _ => none

/-- The sheets after some steps. -/
def sheetsAfter (steps : List ManualStep) : List Sheet :=
  (steps.filterMap ManualStep.stroke?).foldl Stroke.onSheets []

/-- The sheets that a script leaves. -/
def Script.sheets (script : Script) : List Sheet := sheetsAfter script.steps

theorem sheetsAfter_append (steps more : List ManualStep) :
    sheetsAfter (steps ++ more) =
      (more.filterMap ManualStep.stroke?).foldl Stroke.onSheets (sheetsAfter steps) := by
  unfold sheetsAfter
  rw [List.filterMap_append, List.foldl_append]

theorem modify_last {α : Type} (l : List α) (a : α) (f : α → α) :
    (l ++ [a]).modify l.length f = l ++ [f a] := by
  induction l with
  | nil => rfl
  | cons x l ih => rw [List.cons_append, List.length_cons, List.modify_succ_cons, ih,
      List.cons_append]

/-- Marks written on the last item. -/
theorem foldl_write_last (sheets : List Sheet) (sheet marks : List Marker) :
    (marks.map fun m => Stroke.write sheets.length m).foldl Stroke.onSheets (sheets ++ [sheet]) =
      sheets ++ [sheet ++ marks] := by
  induction marks generalizing sheet with
  | nil => rw [List.append_nil]; rfl
  | cons m marks ih =>
    have hstep : (sheets ++ [sheet]).modify sheets.length (· ++ [m]) = sheets ++ [sheet ++ [m]] :=
      modify_last sheets sheet _
    rw [List.map_cons, List.foldl_cons, Stroke.onSheets, hstep, ih, List.append_assoc]
    rfl

/-- Usages written on items: every item gets the lists that are meant for it, in order. -/
theorem foldl_write_usages (blocks : List (Nat × List String)) (sheets : List Sheet) (i : Nat) :
    ((blocks.map fun b => Stroke.write b.1 (.usages b.2)).foldl Stroke.onSheets sheets)[i]? =
      sheets[i]?.map (· ++ ((blocks.filter fun b => b.1 = i).map Prod.snd).map .usages) := by
  induction blocks generalizing sheets with
  | nil => simp
  | cons b blocks ih =>
    rw [List.map_cons, List.foldl_cons, Stroke.onSheets, ih]
    by_cases hb : b.1 = i
    · rw [List.filter_cons_of_pos (by simpa using hb), ← hb, List.getElem?_modify_eq]
      cases sheets[b.1]? with
      | none => rfl
      | some sheet =>
        show some (sheet ++ [.usages b.2] ++ _) = some (sheet ++ .usages b.2 :: _)
        rw [List.append_assoc]
        rfl
    · rw [List.filter_cons_of_neg (by simpa using hb), List.getElem?_modify_ne _ _ hb]

namespace Script

/-! ## 2. Steps that leave the sheets alone -/

/-- The sheets of a course. -/
def Course.sheets (c : Course) : List Sheet := sheetsAfter c.steps

/-- Between two states of a course no item was touched and no usage noted. -/
structure Course.Quiet (c c' : Course) : Prop where
  sheets : c'.sheets = c.sheets
  usages : c'.usages = c.usages
  items : c'.items = c.items

theorem Course.Quiet.refl (c : Course) : c.Quiet c := ⟨rfl, rfl, rfl⟩

theorem Course.Quiet.trans {a b c : Course} (h : a.Quiet b) (h' : b.Quiet c) : a.Quiet c :=
  ⟨h'.sheets.trans h.sheets, h'.usages.trans h.usages, h'.items.trans h.items⟩

theorem say_quiet (level : Level) (text : String) {c c' : Course}
    (h : runFrom (say level text) c = (.ok (), c')) : c.Quiet c' := by
  cases h
  exact ⟨sheetsAfter_append c.steps _, rfl, rfl⟩

/-- A stroke that concerns no item. -/
theorem draw_quiet {s : Stroke} (hs : ∀ sheets, s.onSheets sheets = sheets) {c c' : Course}
    (h : runFrom (draw s) c = (.ok (), c')) : c.Quiet c' := by
  cases h
  exact ⟨(sheetsAfter_append c.steps _).trans (hs c.sheets), rfl, rfl⟩

/-- Asking for a blurb. -/
theorem blurb_eq (files : FileTree) (settings : Settings) (name : String) (c : Course) :
    runFrom (blurb files settings name) c =
      match c.blurbs.lookup name with
      | some known => (.ok known, c)
      | none =>
        match readBlurb files settings.docsFolder name with
        | .error e => (.error (.blurb e), c)
        | .ok found =>
          (.ok found,
            { c with
              steps := c.steps ++
                if found.isNone then [.say (noBlurb settings.docsFolder name)] else []
              blurbs := c.blurbs ++ [(name, found)] }) := by
  have hget : runFrom (get : Writing Course) c = (.ok c, c) := rfl
  unfold blurb
  rw [runFrom_bind_ok hget]
  cases c.blurbs.lookup name with
  | some known => rfl
  | none =>
    cases readBlurb files settings.docsFolder name with
    | error e => rfl
    | ok found =>
      cases found with
      | none => rfl
      | some text =>
        show _ = (Except.ok (some text),
          { c with steps := c.steps ++ [], blurbs := c.blurbs ++ [(name, some text)] })
        rw [List.append_nil]
        rfl

/-- A blurb that was found is remembered, or it is read and then remembered. -/
theorem blurb_cases {files : FileTree} {settings : Settings} {name : String} {c c' : Course}
    {text : Option String} (h : runFrom (blurb files settings name) c = (.ok text, c')) :
    (c.blurbs.lookup name = some text ∧ c' = c) ∨
      (readBlurb files settings.docsFolder name = .ok text ∧
        c' = { c with
          steps := c.steps ++
            if text.isNone then [.say (noBlurb settings.docsFolder name)] else []
          blurbs := c.blurbs ++ [(name, text)] }) := by
  rw [blurb_eq] at h
  split at h
  · rename_i known hknown
    cases h
    exact .inl ⟨hknown, rfl⟩
  · split at h
    · cases h
    · rename_i found hfound
      cases h
      exact .inr ⟨hfound, rfl⟩

theorem blurb_quiet {files : FileTree} {settings : Settings} {name : String} {c c' : Course}
    {text : Option String} (h : runFrom (blurb files settings name) c = (.ok text, c')) :
    c.Quiet c' := by
  rcases blurb_cases h with ⟨-, rfl⟩ | ⟨-, rfl⟩
  · exact .refl _
  · cases text <;> exact ⟨sheetsAfter_append c.steps _, rfl, rfl⟩

/-- Walking within a course. -/
theorem walking_eq {α : Type} (w : Walk Nat α) (c : Course) : runFrom (walking w) c =
    ((runFrom w c.usages).1.mapError .walk, { c with usages := (runFrom w c.usages).2 }) := by
  have hget : runFrom (get : Writing Course) c = (.ok c, c) := rfl
  have hw : w.run.run c.usages = runFrom w c.usages := rfl
  unfold walking
  rw [runFrom_bind_ok hget, hw]
  rcases runFrom w c.usages with ⟨err | a, m⟩ <;> rfl

theorem walking_ok {α : Type} {w : Walk Nat α} {c c' : Course} {a : α}
    (h : runFrom (walking w) c = (.ok a, c')) :
    ∃ m, runFrom w c.usages = (.ok a, m) ∧ c' = { c with usages := m } := by
  rw [walking_eq] at h
  rcases hw : runFrom w c.usages with ⟨e | b, m⟩
  · rw [hw] at h
    cases h
  · rw [hw] at h
    cases h
    exact ⟨m, rfl, rfl⟩

namespace Source

variable {s : Source}

theorem openSection_quiet {rule : String} {current opens next : Option String} {c c' : Course}
    (h : runFrom (s.openSection rule current opens) c = (.ok next, c')) : c.Quiet c' := by
  unfold openSection at h
  split at h
  · cases h
    exact .refl _
  · split at h
    · cases h
      exact .refl _
    · obtain ⟨_, c₁, hsay, h⟩ := runFrom_bind_eq_ok h
      obtain ⟨text, c₂, hblurb, h⟩ := runFrom_bind_eq_ok h
      obtain ⟨_, c₃, hdraw, h⟩ := runFrom_bind_eq_ok h
      cases h
      exact (say_quiet _ _ hsay).trans
        ((blurb_quiet hblurb).trans (draw_quiet (fun _ => rfl) hdraw))

/-- Naming what is left out leaves a message about details, or none. -/
theorem skipNote_eq (s : Source) (documented : List Item) (c : Course) :
    ∃ note : Option Message, (∀ m ∈ note, m.level = .details) ∧
      runFrom (s.skipNote documented) c =
        (.ok (), { c with steps := c.steps ++ note.toList.map .say }) := by
  unfold skipNote
  dsimp only
  split
  · exact ⟨some ⟨.details, _⟩, fun m hm => by cases hm; rfl, rfl⟩
  · refine ⟨none, nofun, ?_⟩
    rw [Option.toList_none, List.map_nil, List.append_nil]
    rfl

theorem skipNote_quiet {items : List Item} {c c' : Course}
    (h : runFrom (s.skipNote items) c = (.ok (), c')) : c.Quiet c' := by
  obtain ⟨note, -, hskip⟩ := s.skipNote_eq items c
  rw [hskip] at h
  cases h
  cases note <;> exact ⟨sheetsAfter_append c.steps _, rfl, rfl⟩

/-! ## 3. Writing items -/

/-- The sheet of an item as it is first written. -/
def sheetOf (s : Source) (i : Item) : Sheet :=
  (if i.rule.fragment then [.remark "helper"] else []) ++
    i.markers (s.settings.startRules.contains i.rule.name)

/-- The usages once some items, the first with number `n`, have been bound. -/
def bound (m : UsageMap Nat) : Nat → List Item → UsageMap Nat
  | _, [] => m
  | n, i :: is => bound (m.bind i.rule.name n) (n + 1) is

/-- What writing items comes to. -/
structure Wrote (s : Source) (items : List Item) (c c' : Course) : Prop where
  sheets : c'.sheets = c.sheets ++ items.map s.sheetOf
  usages : c'.usages = bound c.usages c.items items
  count : c'.items = c.items + items.length

/-- Writing an item. -/
theorem writeItem_eq (s : Source) (i : Item) (c : Course) : runFrom (s.writeItem i) c =
    (.ok (),
      { c with
        steps := c.steps ++ [.say ⟨.debug, "Emitting rule " ++ i.rule.name⟩] ++
          [.draw (.addItem i.rule.fragment)] ++
          (i.markers (s.settings.startRules.contains i.rule.name)).map
            fun m => .draw (.write c.items m)
        usages := c.usages.bind i.rule.name c.items
        items := c.items + 1 }) := rfl

theorem writeItem_run {i : Item} {c c' : Course} (hc : c.items = c.sheets.length)
    (h : runFrom (s.writeItem i) c = (.ok (), c')) : Wrote s [i] c c' := by
  rw [writeItem_eq] at h
  cases h
  refine ⟨?_, rfl, rfl⟩
  have hwrite : ∀ marks : List Marker,
      (marks.map fun m => ManualStep.draw (.write c.items m)).filterMap ManualStep.stroke? =
        marks.map fun m => .write c.sheets.length m := by
    intro marks
    rw [List.filterMap_map, hc]
    exact congrFun List.filterMap_eq_map' marks
  show sheetsAfter _ = _
  rw [sheetsAfter_append, sheetsAfter_append, sheetsAfter_append, hwrite]
  exact foldl_write_last c.sheets _ _

/-- **Writing items adds one sheet for each and binds its name to its number.** -/
theorem writeItems_run {items : List Item} {current : Option String} {c c' : Course}
    (hc : c.items = c.sheets.length)
    (h : runFrom (s.writeItems current items) c = (.ok (), c')) : Wrote s items c c' := by
  induction items generalizing current c with
  | nil =>
    cases h
    exact ⟨(List.append_nil _).symm, rfl, rfl⟩
  | cons i is ih =>
    obtain ⟨next, c₁, hopen, h⟩ := runFrom_bind_eq_ok h
    obtain ⟨_, c₂, hitem, h⟩ := runFrom_bind_eq_ok h
    have hq := openSection_quiet hopen
    have hw := writeItem_run (by rw [hq.items, hq.sheets, hc]) hitem
    have hc₂ : c₂.items = c₂.sheets.length := by
      rw [hw.count, hw.sheets, hq.items, hq.sheets, hc, List.length_append]
      rfl
    have hr := ih hc₂ h
    refine ⟨?_, ?_, ?_⟩
    · rw [hr.sheets, hw.sheets, hq.sheets, List.append_assoc]
      rfl
    · rw [hr.usages, hw.usages, hw.count, hq.usages, hq.items]
      rfl
    · rw [hr.count, hw.count, hq.items, List.length_cons, List.length_cons, List.length_nil]
      omega

theorem bound_append (m : UsageMap Nat) (n : Nat) (xs ys : List Item) :
    bound m n (xs ++ ys) = bound (bound m n xs) (n + xs.length) ys := by
  induction xs generalizing m n with
  | nil => rfl
  | cons i is ih =>
    rw [List.cons_append, bound, ih, bound, List.length_cons, Nat.add_assoc, Nat.add_comm 1]

theorem referrers_bound (m : UsageMap Nat) (n : Nat) (items : List Item) (x : String) :
    (bound m n items).referrers x = m.referrers x := by
  induction items generalizing m n with
  | nil => rfl
  | cons i is ih => rw [bound, ih, UsageMap.referrers_bind]

theorem sound_bound {m : UsageMap Nat} (h : m.Sound) (n : Nat) (items : List Item) :
    (bound m n items).Sound := by
  induction items generalizing m n with
  | nil => exact h
  | cons i is ih => exact ih (h.bind _ _) _

/-- A name is bound to the first item that declares it. -/
theorem handle?_bound (m : UsageMap Nat) (n : Nat) (items : List Item) (x : String) :
    (bound m n items).handle? x =
      (m.handle? x).or ((items.findIdx? fun i => i.rule.name = x).map (n + ·)) := by
  induction items generalizing m n with
  | nil => simp [bound]
  | cons i is ih =>
    rw [bound, ih, UsageMap.handle?_bind, List.findIdx?_cons]
    by_cases hx : x = i.rule.name
    · subst hx
      cases m.handle? i.rule.name <;> simp
    · have hx' : ¬ i.rule.name = x := fun e => hx e.symm
      simp only [hx, hx', if_false, decide_false, Bool.false_eq_true, Option.map_map]
      congr 2
      funext k
      simp only [Function.comp_apply]
      omega

/-! ## 4. The whole script -/

/-- What is known of usages once all rules have been walked. -/
def recorded (s : Source) : UsageMap Nat :=
  (runFrom (s.documentParser s.rules.parserRules.rules >>= fun _ => s.documentLexer)
    (.ofSymbols s.rules.names)).2

theorem recorded_eq {s : Source} {m₁ m₂ : UsageMap Nat} {parserItems : List Item}
    {result : Except WalkError (List Item)}
    (hparser : runFrom (s.documentParser s.rules.parserRules.rules) (.ofSymbols s.rules.names) =
      (.ok parserItems, m₁))
    (hlexer : runFrom s.documentLexer m₁ = (result, m₂)) : s.recorded = m₂ := by
  unfold recorded
  rw [runFrom_bind_ok hparser, hlexer]

/-- The sheets of items with the usages that are flushed to each. -/
def finalSheets (s : Source) (items : List Item) (m : UsageMap Nat) : List Sheet :=
  (items.map s.sheetOf).mapIdx fun i sheet => sheet ++ ((bound m 0 items).flushedAt i).map .usages

theorem flush_run {m : UsageMap Nat} {c c' : Course}
    (h : runFrom (put (m.flush.map fun (index, names) => .draw (.write index (.usages names)))) c =
      (.ok (), c')) :
    c'.sheets = c.sheets.mapIdx fun i sheet => sheet ++ (m.flushedAt i).map .usages := by
  cases h
  have hstrokes : (m.flush.map fun b => ManualStep.draw (.write b.1 (.usages b.2))).filterMap
      ManualStep.stroke? = m.flush.map fun b => .write b.1 (.usages b.2) := by
    rw [List.filterMap_map]
    exact congrFun List.filterMap_eq_map' m.flush
  show sheetsAfter (c.steps ++ _) = _
  rw [sheetsAfter_append, hstrokes]
  refine List.ext_getElem? fun i => ?_
  rw [foldl_write_usages, List.getElem?_mapIdx]
  rfl

/-- The text that explains the notation is drawn, if there is one. -/
theorem preamble_quiet {text : Option String} {next : Unit → Writing Unit} {c c' : Course}
    (h : runFrom (match text with
      | some text => draw (.preamble text) >>= next
      | _ => next ()) c = (.ok (), c')) :
    ∃ c₁, c.Quiet c₁ ∧ runFrom (next ()) c₁ = (.ok (), c') := by
  cases text with
  | none => exact ⟨c, .refl c, h⟩
  | some text =>
    obtain ⟨_, c₁, hdraw, h⟩ := runFrom_bind_eq_ok h
    exact ⟨c₁, draw_quiet (fun _ => rfl) hdraw, h⟩

/-- **A run that comes to its end** has made a survey and leaves the sheets of its items. -/
theorem write_ok {c : Course} (h : runFrom s.write {} = (.ok (), c)) :
    ∃ lexerItems parserItems, Survey s lexerItems parserItems s.recorded ∧
      c.sheets = s.finalSheets (lexerItems ++ parserItems) s.recorded := by
  obtain ⟨_, c₁, hseed, h⟩ := runFrom_bind_eq_ok h
  obtain ⟨parserItems, c₂, hparser, h⟩ := runFrom_bind_eq_ok h
  obtain ⟨lexerItems, c₃, hlexer, h⟩ := runFrom_bind_eq_ok h
  obtain ⟨_, c₄, hskip, h⟩ := runFrom_bind_eq_ok h
  obtain ⟨text, c₅, hblurb, h⟩ := runFrom_bind_eq_ok h
  dsimp only at h
  obtain ⟨c₆, hpreamble, h⟩ := preamble_quiet h
  obtain ⟨_, c₇, hleave, h⟩ := runFrom_bind_eq_ok h
  obtain ⟨_, c₈, hlexerItems, h⟩ := runFrom_bind_eq_ok h
  obtain ⟨_, c₉, hleave', h⟩ := runFrom_bind_eq_ok h
  obtain ⟨_, c₁₀, hparserItems, h⟩ := runFrom_bind_eq_ok h
  obtain ⟨_, _, hget, h⟩ := runFrom_bind_eq_ok h
  cases hget
  obtain ⟨_, c₁₁, hflush, hsay⟩ := runFrom_bind_eq_ok h
  -- the walks
  obtain ⟨m₁, hwalk, rfl⟩ := walking_ok hparser
  obtain ⟨m₂, hwalk', rfl⟩ := walking_ok hlexer
  cases hseed
  have hrec : s.recorded = m₂ := recorded_eq hwalk hwalk'
  rw [hrec]
  refine ⟨lexerItems, parserItems, survey_of_walks hwalk hwalk', ?_⟩
  -- the items
  have hq := (skipNote_quiet hskip).trans ((blurb_quiet hblurb).trans
    (hpreamble.trans (draw_quiet (fun _ => rfl) hleave)))
  have hsheets : c₇.sheets = [] := hq.sheets
  have hitems : c₇.items = 0 := hq.items
  have hw := writeItems_run (by rw [hsheets, hitems]; rfl) hlexerItems
  have hq' := draw_quiet (fun _ => rfl) hleave'
  have hcount : c₈.items = lexerItems.length := by rw [hw.count, hitems, Nat.zero_add]
  have hw' := writeItems_run (by
    rw [hq'.sheets, hq'.items, hw.sheets, hcount, hsheets, List.nil_append, List.length_map])
    hparserItems
  have husages : c₁₀.usages = bound m₂ 0 (lexerItems ++ parserItems) := by
    rw [hw'.usages, hq'.usages, hq'.items, hw.usages, hcount, hq.usages, hitems, bound_append,
      Nat.zero_add]
  have hall : c₁₀.sheets = (lexerItems ++ parserItems).map s.sheetOf := by
    rw [hw'.sheets, hq'.sheets, hw.sheets, hsheets, List.nil_append, List.map_append]
  rw [(say_quiet _ _ hsay).sheets, flush_run hflush, husages, hall]
  rfl

end Source

end Script

open Script in
/-- **A script that comes to its end** leaves the sheets of a survey. -/
theorem RuleSet.script_sheets [PatternLanguage] {rules : RuleSet} {settings : Settings}
    {files : FileTree}
    (h : (rules.script settings files).stop = none) :
    ∃ s : Source, s.rules = rules ∧ s.settings = settings ∧ s.files = files ∧
      Pattern.read settings.pattern = .ok s.pattern ∧
      ∃ lexerItems parserItems, s.Survey lexerItems parserItems s.recorded ∧
        (rules.script settings files).sheets =
          s.finalSheets (lexerItems ++ parserItems) s.recorded := by
  unfold RuleSet.script at h ⊢
  cases hp : Pattern.read settings.pattern with
  | error e =>
    rw [hp] at h
    cases h
  | ok pattern =>
    rw [hp] at h
    simp only at h ⊢
    cases hw : runFrom (Source.write ⟨rules, settings, files, pattern⟩) {} with
    | mk result c =>
      have hw' : (Source.write ⟨rules, settings, files, pattern⟩).run.run {} = (result, c) := hw
      rw [hw'] at h ⊢
      cases result with
      | error e => cases h
      | ok _ =>
        exact ⟨⟨rules, settings, files, pattern⟩, rfl, rfl, rfl, rfl, Source.write_ok hw⟩

namespace Script

/-! ## 5. Performances -/

/-- Steps that are drawn without an error draw all their strokes in order. -/
theorem performSteps_ok {e : Easel} {base : Nat} {steps : List ManualStep}
    {state state' : e.State} {log : List Message}
    (h : performSteps e base steps state = (state', log, none)) :
    state' = (steps.filterMap ManualStep.stroke?).foldl
      (fun st s => (e.step st (s.shift base)).1) state := by
  induction steps generalizing state log with
  | nil =>
    cases h
    rfl
  | cons step steps ih =>
    cases step with
    | say m =>
      rcases hr : performSteps e base steps state with ⟨st, log', err⟩
      rw [performSteps, hr] at h
      cases h
      exact ih hr
    | draw s =>
      rw [performSteps] at h
      cases hs : e.step state (s.shift base) with
      | mk st err =>
        rw [hs] at h
        cases err with
        | some err => cases h
        | none =>
          rw [ih h]
          show _ = List.foldl _ ((e.step state (s.shift base)).1) _
          rw [hs]

/-- **A document is only finished if its script comes to its end**, and then all strokes of the
    script have been drawn. -/
theorem perform_ok {e : Easel} {script : Script} {state : e.State} {document : String}
    (h : (script.perform e state).2.result = .ok document) :
    script.stop = none ∧ document = e.finish ((script.steps.filterMap ManualStep.stroke?).foldl
      (fun st s => (e.step st (s.shift (e.itemCount state))).1) state) := by
  unfold perform at h
  rcases hp : performSteps e (e.itemCount state) script.steps state with ⟨state', log, err⟩
  rw [hp] at h
  cases err with
  | some err => cases h
  | none =>
    cases hstop : script.stop with
    | some stop =>
      rw [hstop] at h
      cases h
    | none =>
      rw [hstop] at h
      rw [← performSteps_ok hp]
      exact ⟨rfl, (Except.ok.inj h).symm⟩

/-! ## 6. Reading a sheet -/

namespace Source

/-- The marks between the beginning and the end of a description. -/
def itemText (i : Item) : List Marker :=
  [.whitespace, .whitespace, .symbol ":", .whitespace] ++ i.body.markers ++
    Layout.newLine Layout.alternativeIndent ++ [.other ";"]

theorem isBody_of_mem_itemText {i : Item} {mark : Marker} (h : mark ∈ itemText i) :
    mark.isBody = true ∨ mark = .other ";" := by
  simp only [itemText, Layout.newLine, List.mem_append, List.mem_cons, List.mem_replicate,
    List.not_mem_nil, or_false] at h
  rcases h with ((hstart | hbody) | hbreak) | hend
  · rcases hstart with rfl | rfl | rfl | rfl <;> exact .inl rfl
  · exact .inl (Layout.isBody_of_mem i.body hbody)
  · rcases hbreak with rfl | ⟨-, rfl⟩ <;> exact .inl rfl
  · exact .inr hend

theorem identifier_mem_itemText {i : Item} {x : String} :
    .identifier x ∈ itemText i ↔ .identifier x ∈ i.body.markers := by
  simp [itemText, Layout.newLine]

variable (s : Source) (i : Item) (blocks : List (List String))

/-- The marks before the description. -/
def itemHead (s : Source) (i : Item) : List Marker :=
  (if i.rule.fragment then [.remark "helper"] else []) ++
    (if s.settings.startRules.contains i.rule.name then [.remark "start"] else []) ++
      [.declaration i.rule.name]

theorem ne_description_of_mem_itemHead {mark : Marker} (h : mark ∈ s.itemHead i) :
    mark ≠ .description := by
  rintro rfl
  unfold itemHead at h
  split at h <;> split at h <;> simp at h

theorem sheetOf_eq : s.sheetOf i =
    s.itemHead i ++ .description :: (itemText i ++ [.endDescription]) := by
  simp [sheetOf, Item.markers, itemHead, itemText]

theorem usages_not_mem_sheetOf (names : List String) : .usages names ∉ s.sheetOf i := by
  intro h
  have htext : .usages names ∉ itemText i := by
    intro hm
    rcases isBody_of_mem_itemText hm with hb | he
    · cases hb
    · cases he
  rw [sheetOf_eq] at h
  simp [itemHead, htext] at h

theorem name?_final : Sheet.name? (s.sheetOf i ++ blocks.map .usages) = some i.rule.name := by
  unfold sheetOf Item.markers Sheet.name?
  cases i.rule.fragment <;> cases s.settings.startRules.contains i.rule.name <;> rfl

/-- The description of an item as it is read back. -/
theorem description_final :
    Sheet.description (s.sheetOf i ++ blocks.map .usages) = itemText i := by
  have hhead : ∀ mark ∈ s.itemHead i, decide (mark ≠ Marker.description) = true := fun mark hm =>
    decide_eq_true (s.ne_description_of_mem_itemHead i hm)
  have htext : ∀ mark ∈ itemText i, decide (mark ≠ Marker.endDescription) = true := by
    intro mark hm
    rw [decide_eq_true_iff]
    rintro rfl
    rcases isBody_of_mem_itemText hm with hb | he
    · cases hb
    · cases he
  unfold Sheet.description
  rw [sheetOf_eq, List.append_assoc, List.dropWhile_append_of_pos hhead, List.cons_append,
    List.append_assoc, List.dropWhile_cons_of_neg (by simp), List.drop_one, List.tail_cons,
    List.takeWhile_append_of_pos htext]
  simp

theorem usages_final : Sheet.usages (s.sheetOf i ++ blocks.map .usages) = blocks := by
  have hnone : Sheet.usages (s.sheetOf i) = [] := by
    refine List.filterMap_eq_nil_iff.mpr fun mark hm => ?_
    cases mark with
    | usages names => exact absurd hm (s.usages_not_mem_sheetOf i names)
    | _ => rfl
  have hblocks : Sheet.usages (blocks.map .usages) = blocks := by
    unfold Sheet.usages
    rw [List.filterMap_map]
    exact List.filterMap_some
  unfold Sheet.usages at hnone hblocks ⊢
  rw [List.filterMap_append, hnone, hblocks, List.nil_append]

end Source

end Script

end GrammarManual
