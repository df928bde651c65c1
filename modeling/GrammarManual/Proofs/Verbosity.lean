import GrammarManual.Command.Run
import GrammarManual.Document.Logged
import GrammarManual.Proofs.Writings

/-!
# Proofs/Verbosity: a logger that is set otherwise changes what is shown

Two runs on the same files, at two verbosities, do the same and say the same; only what is shown of it
differs. One decision asks the logger in between, and this file shows that nothing hangs on it.

* `Logger.hears`, `Logger.tellAll_eq` -- telling messages appends those that are heard, as they stand;
* `Press.course`, `Press.account` -- what steps and runs do and say, whoever listens;
* `performSteps_eq` -- the invariant of a drawing: the logger is the first one, told what has been said;
* `Source.writeFor_false` -- without details a script lacks a run of messages about details and
  nothing else;
* `perform_scriptFor`, `run_eq` -- so a run is its account, told to the logger;
* **`verbosity_shows`** -- the main theorem; `Invocation.draw_logged` says so of commands.
-/

namespace GrammarManual

/-! ## 1. Loggers -/

/-- A lower verbosity sets the higher threshold. -/
theorem threshold_antitone {v w : Int} (h : v ≤ w) : threshold w ≤ threshold v := by
  simp only [threshold, Level.weight]
  split_ifs <;> omega

namespace Log

/-- Everything is shown at 3. -/
theorem shown_three (log : List Message) : shown 3 log = log := by
  have hall (level : Level) : threshold 3 ≤ level.weight := by cases level <;> decide
  exact List.filter_eq_self.mpr fun m _ => decide_eq_true (hall m.level)

/-- What is shown at a lower verbosity is shown at a higher one, in the same order. -/
theorem shown_sublist {v w : Int} (h : v ≤ w) (log : List Message) :
    (shown v log).Sublist (shown w log) :=
  List.monotone_filter_right log fun _ hm =>
    decide_eq_true ((threshold_antitone h).trans (of_decide_eq_true hm))

theorem toText_append (log more : List Message) :
    toText (log ++ more) = toText log ++ toText more := by
  unfold toText
  rw [List.map_append, String.join_append]

end Log

namespace Logger

/-- Whether a logger writes a message. -/
def hears (l : Logger) (m : Message) : Bool := l.least ≤ m.level.weight && l.isOpen

theorem tell_eq (l : Logger) (m : Message) :
    l.tell m = { l with messages := l.messages ++ [m].filter l.hears } := by
  have htell : l.tell m =
      if l.hears m then { l with messages := l.messages ++ [m] } else l := rfl
  rw [htell]
  cases hm : l.hears m with
  | true => rw [List.filter_cons_of_pos hm, List.filter_nil, if_pos rfl]
  | false =>
    rw [List.filter_cons_of_neg (ne_true_of_eq_false hm), List.filter_nil, List.append_nil]
    rfl

/-- **Messages that are told are written if they are heard**, each as it stands. -/
theorem tellAll_eq (l : Logger) (messages : List Message) :
    l.tellAll messages = { l with messages := l.messages ++ messages.filter l.hears } := by
  induction messages generalizing l with
  | nil =>
    rw [List.filter_nil, List.append_nil]
    rfl
  | cons m ms ih =>
    have hstep : l.tellAll (m :: ms) = (l.tell m).tellAll ms := rfl
    have hhears : (l.tell m).hears = l.hears := by
      rw [tell_eq]
      rfl
    have hfilter : (m :: ms).filter l.hears = [m].filter l.hears ++ ms.filter l.hears :=
      List.filter_append [m] ms
    rw [hstep, ih, hhears, tell_eq, hfilter, ← List.append_assoc]

theorem tellAll_append (l : Logger) (messages more : List Message) :
    l.tellAll (messages ++ more) = (l.tellAll messages).tellAll more := List.foldl_append

/-- A logger that shows no details does not write them. -/
theorem tellAll_details {l : Logger} (hl : l.showsDetails = false) {messages : List Message}
    (h : ∀ m ∈ messages, m.level = .details) : l.tellAll messages = l := by
  have hnone : messages.filter l.hears = [] := List.filter_eq_nil_iff.mpr fun m hm => by
    have hdetails : l.hears m = (l.showsDetails && l.isOpen) := by
      unfold hears
      rw [h m hm]
      rfl
    rw [hdetails, hl]
    exact Bool.false_ne_true
  rw [tellAll_eq, hnone, List.append_nil]

/-- What a logger writes that is set up with a verbosity. -/
theorem messages_tellAll_setup (l : Logger) (v : Int) (messages : List Message) :
    ((l.setup v).tellAll messages).messages = l.messages ++ Log.shown v messages := by
  have hheard : messages.filter (l.setup v).hears = Log.shown v messages :=
    List.filter_congr fun m _ => Bool.and_true _
  rw [tellAll_eq, hheard]
  rfl

end Logger

/-! ## 2. What is left out -/

namespace Script.Source

variable (s : Source)

/-- What comes behind the note takes no notice of it. -/
theorem skipNote_then (lexerItems parserItems : List Item) {c : Course} (hc : c.steps = []) :
    ∃ note : List Message, (∀ m ∈ note, m.level = .details) ∧
      runFrom (s.skipNote lexerItems >>= fun _ => s.writeManual lexerItems parserItems) c =
        ((runFrom (s.writeManual lexerItems parserItems) c).1,
          (runFrom (s.writeManual lexerItems parserItems) c).2.behind (note.map .say)) := by
  obtain ⟨note, hnote, hskip⟩ := s.skipNote_eq lexerItems c
  have hbehind : { c with steps := c.steps ++ note.toList.map .say } =
      c.behind (note.toList.map .say) := by
    unfold Course.behind
    rw [hc, List.nil_append, List.append_nil]
  refine ⟨note.toList, fun m hm => hnote m (Option.mem_toList.mp hm), ?_⟩
  rw [runFrom_bind_ok hskip, hbehind]
  exact (s.tame_writeManual lexerItems parserItems).behind _ c

/-- **Without details a script ends the same way**, and it lacks some messages about details, which
    stand in front of all its other steps. -/
theorem writeFor_false : ∃ note : List Message, (∀ m ∈ note, m.level = .details) ∧
    runFrom s.write {} = ((runFrom (s.writeFor false) {}).1,
      (runFrom (s.writeFor false) {}).2.behind (note.map .say)) := by
  have hseed : runFrom (modify fun c => { c with usages := .ofSymbols s.rules.names } :
      Writing Unit) {} = (.ok (), { usages := .ofSymbols s.rules.names }) := rfl
  unfold write writeFor
  rw [runFrom_bind_ok hseed, runFrom_bind_ok hseed, runFrom_bind, runFrom_bind, walking_eq]
  dsimp only
  rcases runFrom (s.documentParser s.rules.parserRules.rules) (UsageMap.ofSymbols s.rules.names)
    with ⟨e | parserItems, m⟩
  · exact ⟨[], nofun, rfl⟩
  · dsimp only [Except.mapError]
    rw [runFrom_bind, runFrom_bind, walking_eq]
    dsimp only
    rcases runFrom s.documentLexer m with ⟨e | lexerItems, m'⟩
    · exact ⟨[], nofun, rfl⟩
    · exact s.skipNote_then lexerItems parserItems rfl

end Script.Source

open Script in
/-- A script for a reader of details is the script of the manual. -/
theorem RuleSet.scriptFor_true [PatternLanguage] (rules : RuleSet) (settings : Settings)
    (files : FileTree) :
    rules.scriptFor true settings files = rules.script settings files := rfl

open Script in
/-- Another reader's script ends the same way, and lacks some messages about details. -/
theorem RuleSet.scriptFor_false [PatternLanguage] (rules : RuleSet) (settings : Settings)
    (files : FileTree) :
    ∃ (note : List Message) (steps : List ManualStep), (∀ m ∈ note, m.level = .details) ∧
      (rules.script settings files).steps = .draw .begin :: (note.map .say ++ steps) ∧
      (rules.scriptFor false settings files).steps = .draw .begin :: steps ∧
      (rules.script settings files).stop = (rules.scriptFor false settings files).stop := by
  unfold script scriptFor
  cases Pattern.read settings.pattern with
  | error e => exact ⟨[], [], nofun, rfl, rfl, rfl⟩
  | ok pattern =>
    let s : Source := { rules, settings, files, pattern }
    obtain ⟨note, hnote, hwrite⟩ := s.writeFor_false
    have hfull : s.write.run.run {} = runFrom s.write {} := rfl
    have hother : (s.writeFor false).run.run {} = runFrom (s.writeFor false) {} := rfl
    refine ⟨note, (runFrom (s.writeFor false) {}).2.steps, hnote, ?_⟩
    dsimp only
    rw [hfull, hother, hwrite]
    rcases runFrom (s.writeFor false) {} with ⟨e | _, c⟩ <;> exact ⟨rfl, rfl, rfl⟩

/-! ## 3. Runs -/

namespace Press

variable (p : Press)

/-- What steps do and say, up to the first stroke that fails, whoever listens. -/
def course (base : Nat) : List ManualStep → p.State → p.State × List Message × Option p.Fault
  | [], state => (state, [], none)
  | .say m :: steps, state =>
    let (state', log, fault) := course base steps state
    (state', m :: log, fault)
  | .draw s :: steps, state =>
    match p.step state (s.shift base) with
    | (state', some fault) => (state', [], some fault)
    | (state', none) => course base steps state'

theorem course_draw (base : Nat) (s : Stroke) (steps : List ManualStep) (state : p.State) :
    p.course base (.draw s :: steps) state =
      match p.step state (s.shift base) with
      | (state', some fault) => (state', [], some fault)
      | (state', none) => p.course base steps state' := rfl

/-- What a run does and says, whoever listens. -/
structure Account where
  state : p.State
  log : List Message
  result : Except (RunError p.Fault) String

/-- What drawing a script does and says. -/
def drawingOf (script : Script) (state : p.State) : p.Account :=
  match p.course (p.itemCount state) script.steps state with
  | (state, log, some fault) => { state, log, result := .error (.press fault) }
  | (state, log, none) =>
    match script.stop with
    | some stop => { state, log, result := .error (.manual stop) }
    | none =>
      let (state, document) := p.finish state
      { state, log, result := document.mapError .press }

/-- What loading the grammars and drawing up their manual does and says. -/
def account [PatternLanguage] (files : FileTree) (parserPath : Path) (lexerPath : Option Path)
    (settings : Settings)
    (state : p.State) : p.Account :=
  let loaded := RuleSet.load files parserPath lexerPath
  match loaded.result with
  | .error e => { state, log := loaded.log, result := .error (.load e) }
  | .ok rules =>
    let drawing := p.drawingOf (rules.script settings files) state
    { drawing with log := loaded.log ++ drawing.log }

variable {p}

/-- The run of which this is the account, with a logger that listens. -/
def Account.heardBy (a : p.Account) (l : Logger) : p.Run :=
  { state := a.state, logger := l.tellAll a.log, result := a.result }

/-- **Steps do the same whoever listens**, and the logger is told what they say. -/
theorem performSteps_eq (base : Nat) (steps : List ManualStep) (state : p.State) (l : Logger) :
    p.performSteps base steps state l =
      ((p.course base steps state).1, l.tellAll (p.course base steps state).2.1,
        (p.course base steps state).2.2) := by
  induction steps generalizing state l with
  | nil => rfl
  | cons step steps ih =>
    cases step with
    | say m => exact ih state (l.tell m)
    | draw s =>
      unfold performSteps course
      rcases p.step state (s.shift base) with ⟨state', _ | fault⟩
      · exact ih state' l
      · rfl

theorem perform_eq (script : Script) (state : p.State) (l : Logger) :
    p.perform script state l = (p.drawingOf script state).heardBy l := by
  unfold perform drawingOf
  rw [performSteps_eq]
  rcases p.course (p.itemCount state) script.steps state with ⟨state', log, _ | fault⟩
  · cases script.stop <;> rfl
  · rfl

/-- Messages before other steps are said before theirs. -/
theorem course_say (base : Nat) (note : List Message) (steps : List ManualStep) (state : p.State) :
    p.course base (note.map .say ++ steps) state =
      ((p.course base steps state).1, note ++ (p.course base steps state).2.1,
        (p.course base steps state).2.2) := by
  induction note with
  | nil => rfl
  | cons m note ih =>
    rw [List.map_cons, List.cons_append, course, ih]
    rfl

/-- **Nothing hangs on what the logger is asked:** a logger that is told all messages of the manual
    ends with the same run as one for which details are left out if it shows none. -/
theorem perform_scriptFor [PatternLanguage] (rules : RuleSet) (settings : Settings)
    (files : FileTree)
    (state : p.State) (l : Logger) :
    p.perform (rules.scriptFor l.showsDetails settings files) state l =
      p.perform (rules.script settings files) state l := by
  cases hl : l.showsDetails with
  | true => rw [rules.scriptFor_true]
  | false =>
    obtain ⟨note, steps, hnote, hfull, hother, hstop⟩ := rules.scriptFor_false settings files
    unfold perform
    rw [performSteps_eq, performSteps_eq, hfull, hother, hstop]
    unfold course
    rcases p.step state (Stroke.begin.shift (p.itemCount state)) with ⟨state', _ | fault⟩
    · dsimp only
      rw [course_say, Logger.tellAll_append, Logger.tellAll_details hl hnote]
    · rfl

/-- **A run is its account, told to the logger.** -/
theorem run_eq [PatternLanguage] (files : FileTree) (parserPath : Path) (lexerPath : Option Path)
    (settings : Settings) (state : p.State) (l : Logger) :
    p.run files parserPath lexerPath settings state l =
      (p.account files parserPath lexerPath settings state).heardBy l := by
  unfold run account
  dsimp only
  cases (RuleSet.load files parserPath lexerPath).result with
  | error e => rfl
  | ok rules =>
    dsimp only
    rw [perform_scriptFor, perform_eq]
    unfold Account.heardBy
    rw [Logger.tellAll_append]

end Press

/-- **Verbosity decides what is shown of a run, and nothing else.** With any press in any state, and
    for any files, grammars and settings, whether the run ends with a document or stops anywhere: the
    document or the error is the same at every verbosity, and so is what the press holds. At 3 all that
    the run says is logged, and at any other verbosity what reaches its threshold, in the same order; so
    a lower one logs a sublist of what a higher one does. A message is written as it was said, behind
    its label, whatever signs stand in it. -/
theorem verbosity_shows [PatternLanguage] (p : Press) (files : FileTree) (parserPath : Path)
    (lexerPath : Option Path) (settings : Settings) (state : p.State) (l : Logger) :
    let run (v : Int) := p.run files parserPath lexerPath settings state (l.setup v)
    let said := (p.account files parserPath lexerPath settings state).log
    (∀ v, (run v).result = (run 3).result ∧ (run v).state = (run 3).state) ∧
      (run 3).logger.messages = l.messages ++ said ∧
      (∀ v, (run v).logger.messages =
        l.messages ++ said.filter fun m => threshold v ≤ m.level.weight) ∧
      (∀ v w, v ≤ w → (run v).logger.messages.Sublist (run w).logger.messages) ∧
      ∀ v, (run v).logger.written = l.written ++ String.join
        ((said.filter fun m => threshold v ≤ m.level.weight).map
          fun m => m.level.label ++ m.text ++ "\n") := by
  intro run said
  have hrun (v : Int) : run v =
      (p.account files parserPath lexerPath settings state).heardBy (l.setup v) := p.run_eq ..
  have hmessages (v : Int) : (run v).logger.messages = l.messages ++ Log.shown v said := by
    rw [hrun]
    exact l.messages_tellAll_setup v said
  refine ⟨fun v => ?_, ?_, hmessages, fun v w h => ?_, fun v => ?_⟩
  · rw [hrun, hrun]
    exact ⟨rfl, rfl⟩
  · rw [hmessages, Log.shown_three]
  · rw [hmessages, hmessages]
    exact (List.Sublist.refl _).append (Log.shown_sublist h said)
  · unfold Logger.written
    rw [hmessages, Log.toText_append]
    rfl

/-- A grammar with signs of a template in the names of its file and of its section. -/
def templateFiles : FileTree where
  entries := [(["100%d.g4"], .file "// SECTION: 5%s\n\nr: 'x' ;\n".toUTF8.data.toList)]

/-- Settings that let these signs stand in the name of a section. -/
def templateSettings : Settings := { pattern := "^// SECTION: (?P<section>.*)$" }

/-- At 1 the section is not told, at 2 it is; none of the signs is filled in. -/
theorem verbosity_shows_template :
    let run (v : Int) := textEasel.press.run templateFiles (Path.ofString "100%d.g4") none
      templateSettings textEasel.fresh (({} : Logger).setup v)
    (run 1).result = (run 2).result ∧
      (run 1).logger.messages.Sublist (run 2).logger.messages ∧
      (run 1).logger.written = "Loaded 1 parser and 0 lexer rules from 100%d.g4\n" ++
        "Documented 0 lexer and 1 parser rules (0 with usages)\n" ∧
      (run 2).logger.written = "Loaded 1 parser and 0 lexer rules from 100%d.g4\n" ++
        "Opening section '5%s' at rule r\n" ++
        "Documented 0 lexer and 1 parser rules (0 with usages)\n" := by
  obtain ⟨hsame, -, -, hsub, hwritten⟩ := verbosity_shows textEasel.press templateFiles
    (Path.ofString "100%d.g4") none templateSettings textEasel.fresh {}
  have hsaid : (textEasel.press.account templateFiles (Path.ofString "100%d.g4") none
      templateSettings textEasel.fresh).log =
      [⟨.progress, "Loaded 1 parser and 0 lexer rules from 100%d.g4"⟩,
        ⟨.debug, "No documentation for section 'notation' at docs/notation.txt"⟩,
        ⟨.details, "Opening section '5%s' at rule r"⟩,
        ⟨.debug, "No documentation for section '5%s' at docs/5%s.txt"⟩,
        ⟨.debug, "Emitting rule r"⟩,
        ⟨.progress, "Documented 0 lexer and 1 parser rules (0 with usages)"⟩] := by
    decide +kernel
  rw [hsaid] at hwritten
  -- written out, both sides agree as they stand; otherwise comparing them would run the program
  dsimp only at hsame hsub hwritten ⊢
  refine ⟨(hsame 1).1.trans (hsame 2).1.symm, hsub 1 2 (by decide), ?_, ?_⟩
  · exact (hwritten 1).trans (by decide +kernel)
  · exact (hwritten 2).trans (by decide +kernel)

/-! ## 4. Commands -/

/-- The press of an easel does and says what the easel does and says. -/
theorem Press.course_easel (e : Easel) (base : Nat) (steps : List ManualStep) (state : e.State) :
    e.press.course base steps state = Script.performSteps e base steps state := by
  induction steps generalizing state with
  | nil => rfl
  | cons step steps ih =>
    cases step with
    | say m => exact congrArg (fun done => (done.1, m :: done.2.1, done.2.2)) (ih state)
    | draw s =>
      have hstep : e.press.step state (s.shift base) = e.step state (s.shift base) := rfl
      have hcourse := e.press.course_draw base s steps state
      rw [hcourse, hstep, Script.performSteps]
      rcases e.step state (s.shift base) with ⟨state', _ | fault⟩
      · exact ih state'
      · rfl

theorem Press.drawingOf_easel (e : Easel) (script : Script) (state : e.State) :
    (e.press.drawingOf script state).log = (script.perform e state).2.log ∧
      ∀ document, (e.press.drawingOf script state).result = .ok document ↔
        (script.perform e state).2.result = .ok document := by
  have hcourse : e.press.course (e.press.itemCount state) script.steps state =
      Script.performSteps e (e.itemCount state) script.steps state := course_easel ..
  unfold drawingOf Script.perform
  rw [hcourse]
  rcases Script.performSteps e (e.itemCount state) script.steps state with ⟨state', log, _ | fault⟩
  · cases script.stop with
    | some stop => exact ⟨rfl, fun _ => ⟨nofun, nofun⟩⟩
    | none => exact ⟨rfl, fun _ => ⟨fun h => by cases h; rfl, fun h => by cases h; rfl⟩⟩
  · exact ⟨rfl, fun _ => ⟨nofun, nofun⟩⟩

/-- **What a command logs** is what a logger writes that is set up with its verbosity, and it draws
    the same document. -/
theorem Command.Invocation.draw_logged [PatternLanguage] {i : Invocation} {files : FileTree}
    {format : Format}
    {settings : Settings} (hformat : format? i.format = some format)
    (hsettings : Settings.discover files (some i.parser) none i.config = .ok settings) :
    let run := format.easel.press.run files i.parser i.lexer (i.override settings)
      format.easel.fresh (({} : Logger).setup i.verbosity)
    run.logger.written = Log.toText (Log.shown i.verbosity (i.draw files).log) ∧
      ∀ document, run.result = .ok document ↔ (i.draw files).result = .ok document := by
  intro run
  have hrun : run = (format.easel.press.account files i.parser i.lexer (i.override settings)
      format.easel.fresh).heardBy (({} : Logger).setup i.verbosity) := Press.run_eq ..
  have hwritten : run.logger.written = Log.toText (Log.shown i.verbosity
      (format.easel.press.account files i.parser i.lexer (i.override settings)
        format.easel.fresh).log) := by
    rw [hrun]
    exact congrArg Log.toText (Logger.messages_tellAll_setup {} i.verbosity _)
  rw [hwritten, hrun]
  unfold draw Press.account Press.Account.heardBy
  rw [hformat, hsettings]
  dsimp only
  cases (RuleSet.load files i.parser i.lexer).result with
  | error e => exact ⟨rfl, fun _ => ⟨nofun, nofun⟩⟩
  | ok rules =>
    obtain ⟨hlog, hresult⟩ := Press.drawingOf_easel format.easel
      (rules.script (i.override settings) files) format.easel.fresh
    dsimp only
    rw [hlog]
    refine ⟨rfl, fun document => (hresult document).trans ?_⟩
    unfold RuleSet.manual
    cases (Script.perform format.easel (rules.script (i.override settings) files)
      format.easel.fresh).2.result with
    | error e => exact ⟨nofun, nofun⟩
    | ok text => exact ⟨fun h => by cases h; rfl, fun h => by cases h; rfl⟩

end GrammarManual
