import GrammarManual.Proofs.Usages

/-!
# Proofs/Sections: which section an item stands in

A section is opened by a rule that carries a marker, and only written rules open one: the marker of
a lexer rule that is left out is never seen.

* `Stroke.onGrouping`, `Script.sections` -- the section open at each stroke, and the sections that
  the items of a script were added in;
* `nearestMarker` -- the marker at or above the last of some rules;
* `writeItems_sections` -- writing items leaves each in the section opened last;
* **`items_under_nearest_marker`** -- in a finished manual every item stands in the section of the
  nearest marker among the written rules of its table. That is the nearest marker of the table for
  every parser rule, and for lexer rules if those left out above them carry none.
* `marker_lost_above_unused` -- below a marker that is left out, the nearest marker of the table is
  another one.
-/

namespace GrammarManual

/-! ## 1. Sections -/

/-- The section that takes new items, and the sections of the items of the document so far. -/
structure Grouping where
  current : Option String := none
  items : List (Option String) := []

/-- What a stroke does to the sections. -/
def Stroke.onGrouping (g : Grouping) : Stroke → Grouping
  | .begin => {}
  | .leaveSection => { g with current := none }
  | .openSection name _ => { g with current := some name }
  | .addItem _ => { g with items := g.items ++ [g.current] }
  | .preamble _ | .write _ _ => g

/-- The strokes of some steps. -/
def strokesOf (steps : List ManualStep) : List Stroke := steps.filterMap ManualStep.stroke?

theorem strokesOf_append (steps more : List ManualStep) :
    strokesOf (steps ++ more) = strokesOf steps ++ strokesOf more :=
  List.filterMap_append

/-- The section of every item of a script, in the order of the items. -/
def Script.sections (script : Script) : List (Option String) :=
  ((strokesOf script.steps).foldl Stroke.onGrouping {}).items

/-- The last marker of a list, if there is one. -/
def lastMarker (opens : List (Option String)) : Option String := (opens.filterMap id).getLast?

theorem lastMarker_cons (o : Option String) (opens : List (Option String)) :
    lastMarker (o :: opens) = (lastMarker opens).or o := by
  unfold lastMarker
  cases o with
  | none => rw [List.filterMap_cons_none rfl, Option.or_none]
  | some name =>
    rw [List.filterMap_cons_some (f := id) rfl, List.getLast?_cons]
    cases (opens.filterMap id).getLast? <;> rfl

/-- Markers that are not there make no difference. -/
theorem lastMarker_filter {α : Type} {f : α → Option String} {p : α → Bool} {as : List α}
    (h : ∀ a ∈ as, p a = false → f a = none) :
    lastMarker ((as.filter p).map f) = lastMarker (as.map f) := by
  unfold lastMarker
  rw [List.filterMap_map, List.filterMap_map, List.filterMap_filter]
  refine congrArg List.getLast? (List.filterMap_congr fun a ha => ?_)
  cases hp : p a with
  | true => rfl
  | false => exact (h a ha hp).symm

/-- Sections carried on from item to item: each marker replaces the one before. -/
def carried : Option String → List (Option String) → List (Option String)
  | _, [] => []
  | current, o :: opens => o.or current :: carried (o.or current) opens

/-- What is carried to an item is the last marker at or above it. -/
theorem getElem?_carried (current : Option String) (above : List (Option String))
    (o : Option String) (below : List (Option String)) :
    (carried current (above ++ o :: below))[above.length]? =
      some ((lastMarker (above ++ [o])).or current) := by
  induction above generalizing current with
  | nil =>
    show some (o.or current) = some ((lastMarker [o]).or current)
    rw [lastMarker_cons]
    cases o <;> rfl
  | cons a above ih =>
    rw [List.cons_append, carried, List.length_cons, List.getElem?_cons_succ, ih, List.cons_append,
      lastMarker_cons, Option.or_assoc]

theorem length_carried (current : Option String) (opens : List (Option String)) :
    (carried current opens).length = opens.length := by
  induction opens generalizing current with
  | nil => rfl
  | cons o opens ih => rw [carried, List.length_cons, List.length_cons, ih]

namespace Script

/-! ## 2. Strokes of a course -/

theorem put_strokes {steps : List ManualStep} {c c' : Course}
    (h : runFrom (put steps) c = (.ok (), c')) :
    strokesOf c'.steps = strokesOf c.steps ++ strokesOf steps := by
  cases h
  exact strokesOf_append c.steps steps

theorem say_strokes {level : Level} {text : String} {c c' : Course}
    (h : runFrom (say level text) c = (.ok (), c')) : strokesOf c'.steps = strokesOf c.steps :=
  (put_strokes h).trans (List.append_nil _)

theorem draw_strokes {s : Stroke} {c c' : Course} (h : runFrom (draw s) c = (.ok (), c')) :
    strokesOf c'.steps = strokesOf c.steps ++ [s] :=
  put_strokes h

theorem blurb_strokes {files : FileTree} {settings : Settings} {name : String} {c c' : Course}
    {text : Option String} (h : runFrom (blurb files settings name) c = (.ok text, c')) :
    strokesOf c'.steps = strokesOf c.steps := by
  rcases blurb_cases h with ⟨-, rfl⟩ | ⟨-, rfl⟩
  · rfl
  · cases text <;> exact (strokesOf_append c.steps _).trans (List.append_nil _)

/-- The sections of a course. -/
def Course.grouping (c : Course) : Grouping := (strokesOf c.steps).foldl Stroke.onGrouping {}

/-- Strokes that were added to a course act on its sections. -/
theorem grouping_add {c c' : Course} {strokes : List Stroke}
    (h : strokesOf c'.steps = strokesOf c.steps ++ strokes) :
    c'.grouping = strokes.foldl Stroke.onGrouping c.grouping := by
  rw [Course.grouping, h, List.foldl_append]
  rfl

theorem grouping_same {c c' : Course} (h : strokesOf c'.steps = strokesOf c.steps) :
    c'.grouping = c.grouping := by
  rw [Course.grouping, h]
  rfl

/-- Marks touch no section. -/
theorem foldl_write_grouping {α : Type} (g : Grouping) (number : α → Nat) (mark : α → Marker)
    (as : List α) :
    (strokesOf (as.map fun a => .draw (.write (number a) (mark a)))).foldl Stroke.onGrouping g =
      g := by
  induction as with
  | nil => rfl
  | cons a as ih => exact ih

namespace Source

variable {s : Source}

theorem skipNote_strokes {items : List Item} {c c' : Course}
    (h : runFrom (s.skipNote items) c = (.ok (), c')) :
    strokesOf c'.steps = strokesOf c.steps := by
  obtain ⟨note, -, hskip⟩ := s.skipNote_eq items c
  rw [hskip] at h
  cases h
  cases note <;> exact (strokesOf_append c.steps _).trans (List.append_nil _)

/-- After a section was opened, or left open, the current one is the last marker. -/
theorem openSection_grouping {rule : String} {current opens next : Option String} {c c' : Course}
    (hc : c.grouping.current = current)
    (h : runFrom (s.openSection rule current opens) c = (.ok next, c')) :
    next = opens.or current ∧ c'.grouping.current = next ∧
      c'.grouping.items = c.grouping.items := by
  unfold openSection at h
  split at h
  · cases h
    exact ⟨rfl, hc, rfl⟩
  · split at h
    · rename_i name hname
      cases h
      exact ⟨hname, hc, rfl⟩
    · obtain ⟨_, c₁, hsay, h⟩ := runFrom_bind_eq_ok h
      obtain ⟨text, c₂, hblurb, h⟩ := runFrom_bind_eq_ok h
      obtain ⟨_, c₃, hdraw, h⟩ := runFrom_bind_eq_ok h
      cases h
      have hsame := (blurb_strokes hblurb).trans (say_strokes hsay)
      rw [grouping_add (draw_strokes hdraw), grouping_same hsame]
      exact ⟨rfl, rfl, rfl⟩

theorem writeItem_grouping {i : Item} {c c' : Course}
    (h : runFrom (s.writeItem i) c = (.ok (), c')) :
    c'.grouping.current = c.grouping.current ∧
      c'.grouping.items = c.grouping.items ++ [c.grouping.current] := by
  obtain ⟨_, c₁, hsay, h⟩ := runFrom_bind_eq_ok h
  obtain ⟨_, c₂, hdraw, h⟩ := runFrom_bind_eq_ok h
  obtain ⟨_, _, hget, h⟩ := runFrom_bind_eq_ok h
  cases hget
  obtain ⟨_, c₃, hset, hmarks⟩ := runFrom_bind_eq_ok h
  have hsteps : c₃.grouping = c₂.grouping := by
    cases hset
    rfl
  rw [grouping_add (put_strokes hmarks), foldl_write_grouping, hsteps,
    grouping_add (draw_strokes hdraw), grouping_same (say_strokes hsay)]
  exact ⟨rfl, rfl⟩

/-- **Writing items leaves each in the section that was opened last.** -/
theorem writeItems_sections {items : List Item} {current : Option String} {c c' : Course}
    (hc : c.grouping.current = current)
    (h : runFrom (s.writeItems current items) c = (.ok (), c')) :
    c'.grouping.items = c.grouping.items ++ carried current (items.map Item.opens) := by
  induction items generalizing current c with
  | nil =>
    cases h
    exact (List.append_nil _).symm
  | cons i is ih =>
    obtain ⟨next, c₁, hopen, h⟩ := runFrom_bind_eq_ok h
    obtain ⟨_, c₂, hitem, h⟩ := runFrom_bind_eq_ok h
    obtain ⟨hnext, hcurrent, hitems⟩ := openSection_grouping hc hopen
    obtain ⟨hcurrent', hitems'⟩ := writeItem_grouping hitem
    rw [ih (hcurrent'.trans hcurrent) h, hitems', hcurrent, hitems, List.append_assoc, hnext]
    rfl

theorem writeUsages_sections {lexerItems parserItems : List Item} {c c' : Course}
    (h : runFrom (writeUsages lexerItems parserItems) c = (.ok (), c')) :
    c'.grouping.items = c.grouping.items := by
  obtain ⟨_, _, hget, h⟩ := runFrom_bind_eq_ok h
  cases hget
  obtain ⟨_, c₁, hflush, hsay⟩ := runFrom_bind_eq_ok h
  rw [grouping_same (say_strokes hsay), grouping_add (put_strokes hflush)]
  exact congrArg Grouping.items (foldl_write_grouping _ Prod.fst (fun b => .usages b.2) _)

/-- **Writing all rules** carries markers on among the lexer items, and afresh among the parser
    items. -/
theorem writeRules_sections {lexerItems parserItems : List Item} {c c' : Course}
    (h : runFrom (s.writeRules lexerItems parserItems) c = (.ok (), c')) :
    c'.grouping.items = c.grouping.items ++ (carried none (lexerItems.map Item.opens) ++
      carried none (parserItems.map Item.opens)) := by
  obtain ⟨_, c₁, hleave, h⟩ := runFrom_bind_eq_ok h
  obtain ⟨_, c₂, hlexer, h⟩ := runFrom_bind_eq_ok h
  obtain ⟨_, c₃, hleave', h⟩ := runFrom_bind_eq_ok h
  obtain ⟨_, c₄, hparser, husages⟩ := runFrom_bind_eq_ok h
  have hg₁ := grouping_add (draw_strokes hleave)
  have hg₃ := grouping_add (draw_strokes hleave')
  have hlexer' := writeItems_sections (by rw [hg₁]; rfl) hlexer
  have hparser' := writeItems_sections (by rw [hg₃]; rfl) hparser
  have hitems₁ : c₁.grouping.items = c.grouping.items := by
    rw [hg₁]
    rfl
  have hitems₃ : c₃.grouping.items = c₂.grouping.items := by
    rw [hg₃]
    rfl
  rw [writeUsages_sections husages, hparser', hitems₃, hlexer', hitems₁, List.append_assoc]

/-! ## 3. The whole script -/

/-- **The sections of the items** of a run that comes to its end: those that writing its rules gives
    them. -/
theorem write_sections {c : Course} (h : runFrom s.write {} = (.ok (), c)) :
    ∃ lexerItems parserItems, Survey s lexerItems parserItems s.recorded ∧
      c.grouping.items =
        carried none (lexerItems.map Item.opens) ++ carried none (parserItems.map Item.opens) := by
  obtain ⟨_, c₁, hseed, h⟩ := runFrom_bind_eq_ok h
  obtain ⟨parserItems, c₂, hparser, h⟩ := runFrom_bind_eq_ok h
  obtain ⟨lexerItems, c₃, hlexer, h⟩ := runFrom_bind_eq_ok h
  obtain ⟨_, c₄, hskip, h⟩ := runFrom_bind_eq_ok h
  obtain ⟨text, c₅, hblurb, h⟩ := runFrom_bind_eq_ok h
  obtain ⟨m₁, hwalk, rfl⟩ := walking_ok hparser
  obtain ⟨m₂, hwalk', rfl⟩ := walking_ok hlexer
  cases hseed
  have hrec : s.recorded = m₂ := recorded_eq hwalk hwalk'
  refine ⟨lexerItems, parserItems, hrec ▸ survey_of_walks hwalk hwalk', ?_⟩
  have hbefore : c₅.grouping.items = [] := by
    rw [grouping_same ((blurb_strokes hblurb).trans (skipNote_strokes hskip))]
    rfl
  -- the text that explains the notation is drawn, if there is one
  have hpreamble : ∃ c₆, c₆.grouping.items = [] ∧
      runFrom (s.writeRules lexerItems parserItems) c₆ = (.ok (), c) := by
    cases text with
    | none => exact ⟨c₅, hbefore, h⟩
    | some text =>
      obtain ⟨_, c₆, hdraw, h⟩ := runFrom_bind_eq_ok h
      refine ⟨c₆, ?_, h⟩
      rw [grouping_add (draw_strokes hdraw)]
      exact hbefore
  obtain ⟨c₆, hnone, hrules⟩ := hpreamble
  rw [writeRules_sections hrules, hnone, List.nil_append]

/-- The nearest marker at or above the last of some rules. -/
def nearestMarker (s : Source) (mode : Mode) (rs : List Rule) : Option String :=
  lastMarker (rs.map fun r => (s.itemOf mode r).opens)

/-- **How the items of a script are grouped.** `used` says which lexer rules are written. -/
structure Groups (s : Source) (used : Rule → Bool) (script : Script) : Prop where
  /-- The items, lexer rules first. -/
  names : script.sheets.map Sheet.name? =
    ((s.rules.lexerRules.rules.filter used).map Rule.name ++ s.rules.parserRules.names).map some
  /-- Every item is in one section or in none. -/
  count : script.sections.length = script.sheets.length
  /-- A parser rule stands in the section of the nearest marker at or above it. -/
  parser : ∀ above r below, s.rules.parserRules.rules = above ++ r :: below →
    script.sections[(s.rules.lexerRules.rules.filter used).length + above.length]? =
      some (s.nearestMarker .parser (above ++ [r]))
  /-- A lexer rule stands in the section of the nearest marker among the written rules. -/
  lexer : ∀ above r below, s.rules.lexerRules.rules = above ++ r :: below → used r = true →
    script.sections[(above.filter used).length]? =
      some (s.nearestMarker .lexer (above.filter used ++ [r]))
  /-- That is the nearest marker of the table if the rules left out above it carry none. -/
  lexerAll : ∀ above r below, s.rules.lexerRules.rules = above ++ r :: below → used r = true →
    (∀ q ∈ above, used q = false → (s.itemOf .lexer q).opens = none) →
    script.sections[(above.filter used).length]? = some (s.nearestMarker .lexer (above ++ [r]))

theorem opens_map (mode : Mode) (rs : List Rule) :
    (rs.map (s.itemOf mode)).map Item.opens = rs.map fun r => (s.itemOf mode r).opens :=
  List.map_map

/-- Markers that are carried among the rules of a survey group its items. -/
theorem groups_of_carried {script : Script} {used : Rule → Bool}
    (hnames : script.sheets.map Sheet.name? =
      ((s.rules.lexerRules.rules.filter used).map Rule.name ++ s.rules.parserRules.names).map some)
    (hsections : script.sections =
      carried none (((s.rules.lexerRules.rules.filter used).map (s.itemOf .lexer)).map Item.opens) ++
        carried none ((s.rules.parserRules.rules.map (s.itemOf .parser)).map Item.opens)) :
    s.Groups used script := by
  rw [opens_map, opens_map] at hsections
  have hlexer : ∀ above r below, s.rules.lexerRules.rules = above ++ r :: below → used r = true →
      script.sections[(above.filter used).length]? =
        some (s.nearestMarker .lexer (above.filter used ++ [r])) := by
    intro above r below htable hr
    rw [hsections, htable, List.filter_append, List.filter_cons_of_pos hr, List.map_append,
      List.map_cons]
    have hlength : (above.filter used).length <
        (carried none ((above.filter used).map (fun r => (s.itemOf .lexer r).opens) ++
          (s.itemOf .lexer r).opens ::
            (below.filter used).map fun r => (s.itemOf .lexer r).opens)).length := by
      rw [length_carried, List.length_append, List.length_map, List.length_cons]
      omega
    rw [List.getElem?_append_left hlength]
    have hat := getElem?_carried none ((above.filter used).map fun r => (s.itemOf .lexer r).opens)
      (s.itemOf .lexer r).opens ((below.filter used).map fun r => (s.itemOf .lexer r).opens)
    rw [List.length_map, Option.or_none] at hat
    rw [hat, nearestMarker, List.map_append]
    rfl
  refine ⟨hnames, ?_, ?_, hlexer, ?_⟩
  · have hlength := congrArg List.length hnames
    rw [List.length_map, List.length_map, List.length_append, List.length_map, RuleTable.names,
      List.length_map] at hlength
    rw [hsections, List.length_append, length_carried, length_carried, List.length_map,
      List.length_map, hlength]
  · intro above r below htable
    rw [hsections, htable, List.map_append, List.map_cons]
    have hskip : (carried none ((s.rules.lexerRules.rules.filter used).map
        fun r => (s.itemOf .lexer r).opens)).length =
          (s.rules.lexerRules.rules.filter used).length := by
      rw [length_carried, List.length_map]
    rw [List.getElem?_append_right (by omega), hskip, Nat.add_sub_cancel_left]
    have hat := getElem?_carried none (above.map fun r => (s.itemOf .parser r).opens)
      (s.itemOf .parser r).opens (below.map fun r => (s.itemOf .parser r).opens)
    rw [List.length_map, Option.or_none] at hat
    rw [hat, nearestMarker, List.map_append]
    rfl
  · intro above r below htable hr hunmarked
    rw [hlexer above r below htable hr]
    have hfilter : above.filter used ++ [r] = (above ++ [r]).filter used := by
      rw [List.filter_append, List.filter_cons_of_pos hr, List.filter_nil]
    rw [hfilter, nearestMarker, nearestMarker, lastMarker_filter fun q hq hu => ?_]
    rcases List.mem_append.mp hq with hq | hq
    · exact hunmarked q hq hu
    · rw [List.mem_singleton.mp hq, hr] at hu
      cases hu

end Source

end Script

/-- A script that comes to its end groups its items: the lexer rules that are used, and all parser
    rules. -/
theorem script_groups_used [PatternLanguage] {rules : RuleSet} {settings : Settings}
    {files : FileTree}
    (hstop : (rules.script settings files).stop = none) :
    ∃ s : Script.Source, s.rules = rules ∧ s.settings = settings ∧ s.files = files ∧
      Pattern.read settings.pattern = .ok s.pattern ∧
      s.Groups (fun r => s.recorded.isUsed r.name) (rules.script settings files) := by
  obtain ⟨s, rfl, rfl, rfl, hpattern, lexerItems, parserItems, hs, hsheets⟩ :=
    RuleSet.script_sheets hstop
  refine ⟨s, rfl, rfl, rfl, hpattern, Script.Source.groups_of_carried ?_ ?_⟩
  · rw [hsheets, Script.Source.map_finalSheets s.name?_final, hs.lexer, hs.parser,
      List.map_append, List.map_append, List.map_map, List.map_map, List.map_map, RuleTable.names,
      List.map_map]
    rfl
  · unfold RuleSet.script at hstop ⊢
    rw [hpattern] at hstop ⊢
    dsimp only at hstop ⊢
    cases hw : runFrom s.write {} with
    | mk result c =>
      have hw' : s.write.run.run {} = (result, c) := hw
      rw [hw'] at hstop ⊢
      cases result with
      | error e => cases hstop
      | ok _ =>
        obtain ⟨lexerItems', parserItems', hs', hitems⟩ := Script.Source.write_sections hw
        rw [hs'.lexer, hs'.parser] at hitems
        exact hitems

/-- A script that comes to its end groups its items. -/
theorem script_groups [PatternLanguage] {rules : RuleSet} {settings : Settings} {files : FileTree}
    (hstop : (rules.script settings files).stop = none) :
    ∃ (s : Script.Source) (used : Rule → Bool), s.rules = rules ∧ s.settings = settings ∧
      s.files = files ∧ Pattern.read settings.pattern = .ok s.pattern ∧
      s.Groups used (rules.script settings files) := by
  obtain ⟨s, hrules, hsettings, hfiles, hpattern, hgroups⟩ := script_groups_used hstop
  exact ⟨s, _, hrules, hsettings, hfiles, hpattern, hgroups⟩

/-- **Every item stands in the section of the nearest marker among the written rules of its
    table**, in every finished manual and on every easel. For parser rules, and for lexer rules
    below no marker that is left out, that is the nearest marker of the whole table. -/
theorem items_under_nearest_marker [PatternLanguage] {rules : RuleSet} {settings : Settings}
    {files : FileTree}
    {e : Easel} {state : e.State} {document : String}
    (h : ((rules.script settings files).perform e state).2.result = .ok document) :
    ∃ (s : Script.Source) (used : Rule → Bool), s.rules = rules ∧ s.settings = settings ∧
      s.files = files ∧ Pattern.read settings.pattern = .ok s.pattern ∧
      s.Groups used (rules.script settings files) :=
  script_groups (Script.perform_ok h).1

/-- Two tokens in the section `One`, the second below a marker of its own above a token that nothing
    refers to. -/
def RuleSet.markedTokens : RuleSet where
  lexerRules :=
    { rules :=
        [{ name := "A", body := .choice [.sequence [.literal "'a'"]], line := 3 },
          { name := "U", body := .choice [.sequence [.literal "'u'"]], line := 6 },
          { name := "B", body := .choice [.sequence [.literal "'b'"]], line := 7 }]
      distinct := by decide }
  parserRules :=
    { rules :=
        [{ name := "r", body := .choice [.sequence [.reference "A", .reference "B"]], line := 8 }]
      distinct := by decide }
  lexerLines := ["// SECTION: One", "", "A: 'a' ;", "// SECTION: Two", "", "U: 'u' ;", "B: 'b' ;",
    "r: A B ;"]

theorem items_under_nearest_marker_tokens :
    ∃ (document : String) (s : Script.Source) (used : Rule → Bool),
      ((RuleSet.markedTokens.script {} {}).perform textEasel textEasel.fresh).2.result =
        .ok document ∧ s.rules = RuleSet.markedTokens ∧
      s.Groups used (RuleSet.markedTokens.script {} {}) := by
  have hdone : ((RuleSet.markedTokens.script {} {}).perform textEasel textEasel.fresh).2.result.toBool =
      true := by decide +kernel
  cases h : ((RuleSet.markedTokens.script {} {}).perform textEasel textEasel.fresh).2.result with
  | error e =>
    rw [h] at hdone
    cases hdone
  | ok document =>
    obtain ⟨s, used, hrules, -, -, -, hgroups⟩ := items_under_nearest_marker h
    exact ⟨document, s, used, rfl, hrules, hgroups⟩

/-- **A marker above a rule that is left out is lost**: the nearest marker of the table above the
    token `B` opens the section `Two`, and `B` stands in `One`. -/
theorem marker_lost_above_unused : ∃ pattern, Pattern.read ({} : Settings).pattern = .ok pattern ∧
    (RuleSet.markedTokens.script {} {}).sheets.map Sheet.name? = [some "A", some "B", some "r"] ∧
    (RuleSet.markedTokens.script {} {}).sections = [some "One", some "One", none] ∧
    Script.Source.nearestMarker ⟨RuleSet.markedTokens, {}, {}, pattern⟩ .lexer
      RuleSet.markedTokens.lexerRules.rules = some "Two" := by
  have hnearest : (Pattern.read ({} : Settings).pattern).toOption.map (fun pattern =>
      Script.Source.nearestMarker ⟨RuleSet.markedTokens, {}, {}, pattern⟩ .lexer
        RuleSet.markedTokens.lexerRules.rules) = some (some "Two") := by decide +kernel
  cases h : Pattern.read ({} : Settings).pattern with
  | error e =>
    rw [h] at hnearest
    cases hnearest
  | ok pattern =>
    rw [h] at hnearest
    exact ⟨pattern, rfl, by decide +kernel, by decide +kernel, Option.some.inj hnearest⟩

end GrammarManual
