import GrammarManual.Document.Desk
import GrammarManual.Proofs.XmlDrafts

/-!
# Proofs/History: runs do not depend on what happened before

An easel numbers items over all its documents, and nothing is ever taken from it. A new document is
therefore drawn upon a layer of older items, and it is the document of a fresh easel with all its
numbers raised.

* `Easel.Layers` -- a reading of the states of an easel by layers: which states are a plain state
  upon `base` older items, and what keeps them so;
* `Layers.annotate`, `Layers.perform` -- notes on older items, and steps amid such notes, leave the
  upper layer as a fresh easel has it;
* `Desk.script_eq` -- the course of the last run has no influence on a script;
* `TextDraft.layers`, `XmlDraft.layers` -- the layers of both formats;
* **`history_has_no_influence`** -- after any events, a run is the run on a fresh easel.
-/

namespace GrammarManual

/-! ## 1. Layers -/

/-- **A reading of states by layers.** `Above base state plain` says that `state` shows the document
    of `plain` upon a layer of `base` older items. -/
structure Easel.Layers (e : Easel) where
  Above : Nat → e.State → e.State → Prop
  /-- Nothing lies below a fresh easel. -/
  fresh : e.itemCount e.fresh = 0
  /-- A mark adds no item. -/
  count : ∀ {state : e.State} {number : Nat} {mark : Marker},
    e.itemCount (e.step state (.write number mark)).1 = e.itemCount state
  /-- A new document is drawn upon everything before it. -/
  begin : ∀ state : e.State,
    Above (e.itemCount state) (e.step state .begin).1 (e.step e.fresh .begin).1 ∧
      (e.step state .begin).2 = (e.step e.fresh .begin).2
  /-- A stroke with raised numbers does upon the older items what it does without them. -/
  step : ∀ {base : Nat} {state plain : e.State}, Above base state plain → ∀ s : Stroke,
    Above base (e.step state (s.shift base)).1 (e.step plain s).1 ∧
      (e.step state (s.shift base)).2 = (e.step plain s).2
  /-- Marks on older items stay below. -/
  below : ∀ {base : Nat} {state plain : e.State} {number : Nat} {mark : Marker},
    Above base state plain → number < base →
      Above base (e.step state (.write number mark)).1 plain
  /-- What is shown is the upper layer. -/
  finish : ∀ {base : Nat} {state plain : e.State}, Above base state plain →
    e.finish state = e.finish plain

namespace Easel.Layers

variable {e : Easel}

theorem annotate (l : e.Layers) {base : Nat} {state plain : e.State} (notes : List (Note base))
    (h : l.Above base state plain) : l.Above base (e.annotate notes state) plain := by
  unfold Easel.annotate
  induction notes generalizing state with
  | nil => exact h
  | cons note notes ih => exact ih (l.below h note.1.isLt)

theorem count_annotate (l : e.Layers) {base : Nat} (notes : List (Note base)) (state : e.State) :
    e.itemCount (e.annotate notes state) = e.itemCount state := by
  unfold Easel.annotate
  induction notes generalizing state with
  | nil => rfl
  | cons note notes ih => rw [List.foldl_cons, ih, l.count]

/-- **Steps amid notes on older items** leave the upper layer, the messages and the error of a
    plain performance. -/
theorem perform (l : e.Layers) {base : Nat} (amid : Nat → List (Note base)) (number : Nat)
    {steps : List ManualStep} {state plain : e.State} (h : l.Above base state plain) :
    l.Above base (Script.performAmid e amid number steps state).1
        (Script.performSteps e 0 steps plain).1 ∧
      (Script.performAmid e amid number steps state).2 =
        (Script.performSteps e 0 steps plain).2 := by
  induction steps generalizing number state plain with
  | nil => exact ⟨l.annotate _ h, rfl⟩
  | cons step steps ih =>
    have hnoted := l.annotate (amid number) h
    cases step with
    | say m =>
      obtain ⟨habove, hsame⟩ := ih (number + 1) hnoted
      have hlog : ∀ rest : List Message × Option StrokeError, rest =
          (Script.performSteps e 0 steps plain).2 → (m :: rest.1, rest.2) =
            (m :: (Script.performSteps e 0 steps plain).2.1,
              (Script.performSteps e 0 steps plain).2.2) := by
        rintro _ rfl
        rfl
      exact ⟨habove, hlog _ hsame⟩
    | draw s =>
      obtain ⟨habove, herr⟩ := l.step hnoted s
      unfold Script.performAmid Script.performSteps
      rw [s.shift_zero]
      rcases hs : e.step (e.annotate (amid number) state) (s.shift base) with ⟨state', err⟩
      rcases hs' : e.step plain s with ⟨plain', err'⟩
      rw [hs, hs'] at habove herr
      cases herr
      cases err with
      | some err => exact ⟨habove, rfl⟩
      | none => exact ih (number + 1) habove

end Easel.Layers

/-! ## 2. Scripts -/

/-- **The script of a run does not depend on the desk**: whatever the last run left, all that a new
    one finds are old usages, and these it replaces before it looks at any. -/
theorem Desk.script_eq [PatternLanguage] {e : Easel} (d : Desk e) (rules : RuleSet)
    (settings : Settings)
    (files : FileTree) : d.script rules settings files = rules.script settings files := by
  unfold Desk.script RuleSet.script
  cases Pattern.read settings.pattern with
  | error e => rfl
  | ok pattern =>
    have hrun : ∀ s : Script.Source, s.write.run.run d.course.renew = s.write.run.run {} :=
      fun _ => rfl
    dsimp only
    generalize Script.Source.mk rules settings files pattern = s
    rcases hleft : s.write.run.run d.course.renew with ⟨result, c⟩
    have hright := (hrun s).symm.trans hleft
    cases result <;> rw [hright]

/-- A script begins a new document before it does anything else. -/
theorem RuleSet.script_begins [PatternLanguage] (rules : RuleSet) (settings : Settings)
    (files : FileTree) :
    ∃ steps, (rules.script settings files).steps = .draw .begin :: steps := by
  unfold RuleSet.script
  cases Pattern.read settings.pattern with
  | error err => exact ⟨[], rfl⟩
  | ok pattern =>
    dsimp only
    rcases StateT.run (ExceptT.run (Script.Source.write ⟨rules, settings, files, pattern⟩)) {} with
      ⟨result, c⟩
    cases result with
    | ok done => exact ⟨c.steps, rfl⟩
    | error err => exact ⟨c.steps, rfl⟩

theorem Script.perform_eq (script : Script) (e : Easel) (state : e.State) :
    script.perform e state = script.conclude e
      (performSteps e (e.itemCount state) script.steps state).1
      (performSteps e (e.itemCount state) script.steps state).2.1
      (performSteps e (e.itemCount state) script.steps state).2.2 := rfl

namespace Easel.Layers

variable {e : Easel}

/-- **Steps that begin a document**, drawn anywhere and amid notes on older items. -/
theorem perform_begin (l : e.Layers) (d : Desk e) (amid : Nat → List (Note d.count))
    (steps : List ManualStep) :
    l.Above d.count (Script.performAmid e amid 0 (.draw .begin :: steps) d.easel).1
        (Script.performSteps e 0 (.draw .begin :: steps) e.fresh).1 ∧
      (Script.performAmid e amid 0 (.draw .begin :: steps) d.easel).2 =
        (Script.performSteps e 0 (.draw .begin :: steps) e.fresh).2 := by
  obtain ⟨habove, herr⟩ := l.begin (e.annotate (amid 0) d.easel)
  rw [l.count_annotate] at habove
  unfold Script.performAmid Script.performSteps Stroke.shift
  rcases hs : e.step (e.annotate (amid 0) d.easel) .begin with ⟨state', err⟩
  rcases hs' : e.step e.fresh .begin with ⟨plain', err'⟩
  rw [hs, hs'] at habove herr
  cases herr
  cases err with
  | some err => exact ⟨habove, rfl⟩
  | none => exact l.perform amid 1 habove

/-- What a run comes to does not depend on what lies below. -/
theorem conclude (l : e.Layers) {base : Nat} {state plain : e.State} (script : Script)
    (log : List Message) (err : Option StrokeError) (h : l.Above base state plain) :
    (script.conclude e state log err).2 = (script.conclude e plain log err).2 ∧
      l.Above base (script.conclude e state log err).1 (script.conclude e plain log err).1 := by
  unfold Script.conclude
  cases err with
  | some err => exact ⟨rfl, h⟩
  | none =>
    cases script.stop with
    | some stop => exact ⟨rfl, h⟩
    | none => exact ⟨congrArg (fun text => Outcome.mk log (.ok text)) (l.finish h), h⟩

/-- **A run on a desk is the run on a fresh easel**, with the same document upon what was there. -/
theorem generate [PatternLanguage] (l : e.Layers) (d : Desk e) (rules : RuleSet)
    (settings : Settings)
    (files : FileTree) (amid : Nat → List (Note d.count)) :
    (d.generate rules settings files amid).2 =
        ((rules.script settings files).perform e e.fresh).2 ∧
      l.Above d.count (d.generate rules settings files amid).1
        ((rules.script settings files).perform e e.fresh).1 := by
  obtain ⟨steps, hsteps⟩ := rules.script_begins settings files
  obtain ⟨habove, hsame⟩ := l.perform_begin d amid steps
  rw [← hsteps] at habove hsame
  unfold Desk.generate
  rw [d.script_eq, Script.perform_eq, l.fresh]
  rcases hp : Script.performAmid e amid 0 (rules.script settings files).steps d.easel with
    ⟨state, log, err⟩
  rcases hq : Script.performSteps e 0 (rules.script settings files).steps e.fresh with
    ⟨plain, log', err'⟩
  rw [hp, hq] at habove hsame
  cases hsame
  exact l.conclude _ log err habove

end Easel.Layers

/-! ## 3. Items upon items -/

/-- Items behind `base` older ones. -/
structure Upon {α : Type} (base : Nat) (items plain : List α) : Prop where
  length : items.length = base + plain.length
  getElem? : ∀ i, items[base + i]? = plain[i]?

namespace Upon

variable {α : Type} {base : Nat} {items plain : List α}

theorem all (items : List α) : Upon items.length items [] :=
  ⟨rfl, fun i => List.getElem?_eq_none (Nat.le_add_right _ i)⟩

theorem concat (h : Upon base items plain) (a : α) : Upon base (items ++ [a]) (plain ++ [a]) := by
  refine ⟨?_, fun i => ?_⟩
  · rw [List.length_append, List.length_append, h.length, Nat.add_assoc]
  · rw [List.getElem?_append, List.getElem?_append, h.length, h.getElem?]
    have hpast : base + i - (base + plain.length) = i - plain.length := by omega
    have hwithin : base + i < base + plain.length ↔ i < plain.length := by omega
    rw [hpast]
    simp only [hwithin]

theorem modify (h : Upon base items plain) (number : Nat) (f : α → α) :
    Upon base (items.modify (base + number) f) (plain.modify number f) := by
  refine ⟨?_, fun i => ?_⟩
  · rw [List.length_modify, List.length_modify, h.length]
  · rw [List.getElem?_modify, List.getElem?_modify, h.getElem?]
    simp only [Nat.add_left_cancel_iff]

/-- An item changed below leaves those above it. -/
theorem below (h : Upon base items plain) {number : Nat} (hlt : number < base) (f : α → α) :
    Upon base (items.modify number f) plain := by
  refine ⟨?_, fun i => ?_⟩
  · rw [List.length_modify, h.length]
  · have hne : number ≠ base + i := by omega
    rw [List.getElem?_modify, ← h.getElem?]
    simp only [hne, if_false, id_map']

theorem set (h : Upon base items plain) (number : Nat) (a : α) :
    Upon base (items.set (base + number) a) (plain.set number a) := by
  refine ⟨?_, fun i => ?_⟩
  · rw [List.length_set, List.length_set, h.length]
  · rw [List.getElem?_set, List.getElem?_set, h.getElem?, h.length]
    simp only [Nat.add_left_cancel_iff, Nat.add_lt_add_iff_left]

theorem set_below (h : Upon base items plain) {number : Nat} (hlt : number < base) (a : α) :
    Upon base (items.set number a) plain := by
  refine ⟨?_, fun i => ?_⟩
  · rw [List.length_set, h.length]
  · have hne : number ≠ base + i := by omega
    rw [List.getElem?_set_ne hne, h.getElem?]

end Upon

/-! ## 4. Texts -/

/-- A block of a text with its number raised. -/
def TextBlock.raise (base : Nat) : TextBlock → TextBlock
  | .lines ls => .lines ls
  | .item index => .item (base + index)

namespace TextDraft

/-- A text upon older items. -/
structure Above (base : Nat) (d plain : TextDraft) : Prop where
  items : Upon base d.items plain.items
  blocks : d.blocks = plain.blocks.map (TextBlock.raise base)
  inSection : d.inSection = plain.inSection

variable {base : Nat} {d plain : TextDraft}

theorem Above.add (h : d.Above base plain) (b : TextBlock) :
    (d.add (b.raise base)).Above base (plain.add b) := by
  refine ⟨h.items, ?_, h.inSection⟩
  show d.blocks ++ [_] = (plain.blocks ++ [b]).map _
  rw [List.map_append, h.blocks]
  rfl

/-- **A stroke keeps a text upon its older items.** -/
theorem Above.step (h : d.Above base plain) (s : Stroke) :
    (d.step (s.shift base)).Above base (plain.step s) := by
  cases s with
  | begin => exact ⟨h.items, rfl, rfl⟩
  | preamble text => exact h.add (.lines _)
  | openSection name blurb =>
    have hadd := h.add (.lines (("// SECTION: " ++ name) :: blurb.elim [] comment))
    exact ⟨hadd.items, hadd.blocks, rfl⟩
  | leaveSection =>
    have hadd := h.add (.lines [sectionEnd])
    unfold Stroke.shift TextDraft.step
    rw [h.inSection]
    cases plain.inSection with
    | false => exact h
    | true => exact ⟨hadd.items, hadd.blocks, rfl⟩
  | addItem helper =>
    have hadd : (d.add (.item (base + plain.items.length))).Above base _ :=
      h.add (.item plain.items.length)
    rw [← h.items.length] at hadd
    exact ⟨h.items.concat _, hadd.blocks, h.inSection⟩
  | write index mark => exact ⟨h.items.modify index _, h.blocks, h.inSection⟩

theorem Above.blockLines (h : d.Above base plain) (b : TextBlock) :
    d.blockLines (b.raise base) = plain.blockLines b := by
  cases b with
  | lines ls => rfl
  | item index =>
    show (d.items[base + index]?.map _).getD _ = _
    rw [h.items.getElem?]
    rfl

theorem Above.toText (h : d.Above base plain) : d.toText = plain.toText := by
  unfold TextDraft.toText
  rw [h.blocks, List.map_map]
  simp only [Function.comp_def, h.blockLines]

/-- The layers of texts. -/
def layers : textEasel.Layers where
  Above base d plain := TextDraft.Above base d plain
  fresh := rfl
  count := List.length_modify _ _ _
  begin _ := ⟨⟨.all _, rfl, rfl⟩, rfl⟩
  step h s := ⟨h.step s, rfl⟩
  below h hlt := ⟨h.items.below hlt _, h.blocks, h.inSection⟩
  finish h := h.toText

end TextDraft

/-! ## 5. XML documents -/

/-- A child of the root with its numbers raised. -/
def XmlPart.raise (base : Nat) : XmlPart → XmlPart
  | .item index => .item (base + index)
  | .set e items => .set e (items.map (base + ·))

namespace XmlDraft

theorem raise_addItem (base index : Nat) (part : XmlPart) :
    (XmlPart.addItem index part).raise base =
      XmlPart.addItem (base + index) (part.raise base) := by
  cases part with
  | item _ => rfl
  | set e items =>
    show XmlPart.set e ((items ++ [index]).map _) = XmlPart.set e (items.map _ ++ [_])
    rw [List.map_append]
    rfl

/-- An XML document upon older items. -/
structure Above (base : Nat) (d plain : XmlDraft) : Prop where
  items : Upon base d.items plain.items
  parts : d.parts = plain.parts.map (XmlPart.raise base)
  container : d.container = plain.container

variable {base : Nat} {d plain : XmlDraft}

theorem Above.addSet (h : d.Above base plain) (e : XmlElement) :
    (d.addSet e).Above base (plain.addSet e) := by
  refine ⟨h.items, ?_, h.container⟩
  show d.parts ++ [_] = (plain.parts ++ [_]).map _
  rw [List.map_append, h.parts]
  rfl

theorem Above.openSection (h : d.Above base plain) (name : String) (blurb : Option String) :
    (d.step (.openSection name blurb)).1.Above base (plain.step (.openSection name blurb)).1 ∧
      (d.step (.openSection name blurb)).2 = (plain.step (.openSection name blurb)).2 := by
  rw [step, step]
  split
  · have hset := h.addSet (setElement name blurb).1
    have hlength : d.parts.length = plain.parts.length := by rw [h.parts, List.length_map]
    exact ⟨⟨hset.items, hset.parts, congrArg some hlength⟩, rfl⟩
  · exact ⟨h, rfl⟩

/-- A set takes an item and has its numbers raised, in either order. -/
theorem map_raise_modify (base index i : Nat) (parts : List XmlPart) :
    (parts.map (XmlPart.raise base)).modify i (XmlPart.addItem (base + index)) =
      (parts.modify i (XmlPart.addItem index)).map (XmlPart.raise base) := by
  refine List.ext_getElem? fun k => ?_
  rw [List.getElem?_modify, List.getElem?_map, List.getElem?_map, List.getElem?_modify]
  cases parts[k]? with
  | none => rfl
  | some part =>
    by_cases hk : i = k
    · simp only [hk, if_true, Option.map_some, Option.map_eq_map, raise_addItem]
    · simp only [hk, if_false, Option.map_some, Option.map_eq_map]

theorem Above.addItem (h : d.Above base plain) (helper : Bool) :
    (d.step (.addItem helper)).1.Above base (plain.step (.addItem helper)).1 ∧
      (d.step (.addItem helper)).2 = (plain.step (.addItem helper)).2 := by
  rw [step, step, h.container, h.items.length]
  cases plain.container with
  | none =>
    refine ⟨⟨h.items.concat _, ?_, rfl⟩, rfl⟩
    show d.parts ++ [_] = (plain.parts ++ [_]).map _
    rw [List.map_append, h.parts]
    rfl
  | some i =>
    refine ⟨⟨h.items.concat _, ?_, rfl⟩, rfl⟩
    show d.parts.modify i _ = (plain.parts.modify i _).map _
    rw [h.parts, map_raise_modify]

theorem Above.write (h : d.Above base plain) (number : Nat) (mark : Marker) :
    (d.step (.write (base + number) mark)).1.Above base (plain.step (.write number mark)).1 ∧
      (d.step (.write (base + number) mark)).2 = (plain.step (.write number mark)).2 := by
  rw [step, step, h.items.getElem?]
  cases plain.items[number]? with
  | none => exact ⟨h, rfl⟩
  | some item => exact ⟨⟨h.items.set number _, h.parts, h.container⟩, rfl⟩

/-- **A stroke keeps an XML document upon its older items**, and fails as it does without them. -/
theorem Above.step (h : d.Above base plain) (s : Stroke) :
    (d.step (s.shift base)).1.Above base (plain.step s).1 ∧
      (d.step (s.shift base)).2 = (plain.step s).2 := by
  cases s with
  | begin => exact ⟨⟨h.items, rfl, rfl⟩, rfl⟩
  | preamble text => exact ⟨h.addSet _, rfl⟩
  | openSection name blurb => exact h.openSection name blurb
  | leaveSection => exact ⟨⟨h.items, h.parts, rfl⟩, rfl⟩
  | addItem helper => exact h.addItem helper
  | write number mark => exact h.write number mark

theorem length_items_write (d : XmlDraft) (number : Nat) (mark : Marker) :
    (d.step (.write number mark)).1.items.length = d.items.length := by
  rw [XmlDraft.step]
  cases d.items[number]? with
  | none => rfl
  | some item => exact List.length_set

/-- A mark on an older item. -/
theorem Above.below (h : d.Above base plain) {number : Nat} (hlt : number < base) (mark : Marker) :
    (d.step (.write number mark)).1.Above base plain := by
  rw [XmlDraft.step]
  cases d.items[number]? with
  | none => exact h
  | some item => exact ⟨h.items.set_below hlt _, h.parts, h.container⟩

theorem Above.itemElement (h : d.Above base plain) (index : Nat) :
    d.itemElement (base + index) = plain.itemElement index := by
  unfold XmlDraft.itemElement
  rw [h.items.getElem?]

theorem Above.partElement (h : d.Above base plain) (part : XmlPart) :
    d.partElement (part.raise base) = plain.partElement part := by
  cases part with
  | item index => exact h.itemElement index
  | set e items =>
    show (items.map _).foldl _ e = items.foldl _ e
    rw [List.foldl_map]
    simp only [h.itemElement]

theorem Above.tree (h : d.Above base plain) : d.tree = plain.tree := by
  unfold XmlDraft.tree
  rw [h.parts, List.map_map]
  simp only [Function.comp_def, h.partElement]

/-- The layers of XML documents. -/
def layers : xmlEasel.Layers where
  Above base d plain := XmlDraft.Above base d plain
  fresh := rfl
  count := length_items_write _ _ _
  begin _ := ⟨⟨.all _, rfl, rfl⟩, rfl⟩
  step h s := h.step s
  below h hlt := h.below hlt _
  finish h := congrArg XmlElement.document h.tree

end XmlDraft

/-! ## 6. Manuals -/

/-- The layers of a format. -/
def Format.layers : (format : Format) → format.easel.Layers
  | .text => TextDraft.layers
  | .xml => XmlDraft.layers

theorem Script.performAmid_nil {e : Easel} {base : Nat} (number : Nat) (steps : List ManualStep)
    (state : e.State) : performAmid e (fun _ => ([] : List (Note base))) number steps state =
      performSteps e base steps state := by
  induction steps generalizing number state with
  | nil => rfl
  | cons step steps ih =>
    cases step with
    | say m =>
      unfold performAmid performSteps
      rw [ih]
      rfl
    | draw s =>
      unfold performAmid performSteps
      simp only [ih]
      rfl

/-- A run on a desk that nobody interferes with performs the script. -/
theorem Desk.generate_eq [PatternLanguage] {e : Easel} (d : Desk e) (rules : RuleSet)
    (settings : Settings)
    (files : FileTree) : d.generate rules settings files (fun _ => []) =
      (rules.script settings files).perform e d.easel := by
  unfold Desk.generate
  rw [d.script_eq, Script.performAmid_nil, Script.perform_eq]
  rfl

/-- **What happened before has no influence on a manual.** After any events on an easel, a run
    leaves the messages and the document, or the error, of a run on a fresh one, whatever is written
    on older items while it goes on. Neither do marks written on older items later change what the
    easel shows. -/
theorem history_has_no_influence [PatternLanguage] (format : Format) (history : List Event)
    (rules : RuleSet)
    (settings : Settings) (files : FileTree)
    (amid : Nat → List (Note (Desk.afterAll format.easel history).count))
    (later : List (Note (Desk.afterAll format.easel history).count)) :
    let run := (Desk.afterAll format.easel history).generate rules settings files amid
    run.2 = rules.manual format settings files ∧
      format.easel.finish (format.easel.annotate later run.1) =
        format.easel.finish ((rules.script settings files).perform format.easel
          format.easel.fresh).1 := by
  obtain ⟨hsame, habove⟩ :=
    format.layers.generate (Desk.afterAll format.easel history) rules settings files amid
  exact ⟨hsame, format.layers.finish (format.layers.annotate later habove)⟩

/-- A manual that is finished once is finished as often as it is asked for, and is the same. -/
theorem performTimes_manual [PatternLanguage] {format : Format} {rules : RuleSet}
    {settings : Settings}
    {files : FileTree} {document : String}
    (h : (rules.manual format settings files).result = .ok document) (times : Nat)
    (state : format.easel.State) :
    ((rules.script settings files).performTimes format.easel times state).result =
      .ok (List.replicate times document) := by
  induction times generalizing state with
  | zero => rfl
  | succ times ih =>
    have hrun : ((rules.script settings files).perform format.easel state).2 =
        rules.manual format settings files := by
      have hdesk := Desk.generate_eq ⟨state, {}⟩ rules settings files
      rw [← hdesk]
      exact (format.layers.generate ⟨state, {}⟩ rules settings files _).1
    unfold Script.performTimes
    rcases hp : (rules.script settings files).perform format.easel state with ⟨state', first⟩
    rw [hp] at hrun
    have hfirst : first.result = .ok document := (congrArg Outcome.result hrun).trans h
    dsimp only
    rw [hfirst]
    dsimp only
    rw [ih state']
    rfl

end GrammarManual
