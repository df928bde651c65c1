import GrammarManual.Proofs.Documented
import GrammarManual.Proofs.Entries
import GrammarManual.Proofs.Marks
import GrammarManual.Proofs.Unused
import GrammarManual.Proofs.Words

/-!
# Proofs/XmlTexts: which manuals XML can hold

A text takes whatever it is given, XML refuses control characters. The notation keeps them out of
names, but not out of literals, character sets, sections and blurbs.

* `Stroke.isHeld` -- strokes whose texts XML can hold: these succeed on every document
  (`XmlDraft.step_held`, `XmlDraft.draw_held`);
* `Source.copied` -- the texts that a manual copies from the files it is drawn from;
* `Source.strokes_held` -- if all of them can be held, so can every stroke;
  `Source.copied_held` -- and they all stand in a finished document;
* **`xml_refuses_unheld`** -- where the text is finished, XML is finished exactly if it can hold
  what is copied; `control_literal_unprintable` is a grammar with a literal that it cannot hold.
-/

namespace GrammarManual

/-! ## 1. Strokes -/

theorem isXmlChar_of_isNameChar {c : Char} (h : G4.Scan.isNameChar c = true) :
    isXmlChar c = true := by
  have hnat : c.toNat = c.val.toNat := rfl
  have hrange : 0x20 ≤ c.toNat ∧ c.toNat ≠ 0xfffe ∧ c.toNat ≠ 0xffff := by
    delta G4.Scan.isNameChar Char.isAlphanum Char.isAlpha Char.isUpper Char.isLower
      Char.isDigit at h
    simp only [Bool.or_eq_true, Bool.and_eq_true, decide_eq_true_eq, ge_iff_le,
      UInt32.le_iff_toNat_le] at h
    rcases h with ((h | h) | h) | rfl
    · have hends : 'A'.val.toNat = 65 ∧ 'Z'.val.toNat = 90 := ⟨rfl, rfl⟩
      omega
    · have hends : 'a'.val.toNat = 97 ∧ 'z'.val.toNat = 122 := ⟨rfl, rfl⟩
      omega
    · have hends : '0'.val.toNat = 48 ∧ '9'.val.toNat = 57 := ⟨rfl, rfl⟩
      omega
    · decide
  simp [isXmlChar, hrange]

/-- Words can be held. -/
theorem isXmlText_of_isWord {name : String} (h : IsWord name) : isXmlText name = true :=
  List.all_eq_true.mpr fun c hc => isXmlChar_of_isNameChar (h c hc)

/-- Strokes whose texts XML can hold. -/
def Stroke.isHeld : Stroke → Bool
  | .preamble text => isXmlText text
  | .openSection name blurb => isXmlText name && blurb.all isXmlText
  | .write _ mark => mark.isHeld
  | _ => true

namespace XmlElement

theorem ofText_ok {tag text : String} {body : String → XmlBody} (h : isXmlText text = true) :
    (ofText tag text body).2 = none := by
  rw [ofText, if_pos h]

theorem named_ok {tag name : String} (h : isXmlText name = true) : (named tag name).2 = none := by
  rw [named, if_pos h]

theorem usageList_ok {names : List String} (h : names.all isXmlText = true) :
    (usageList names).2 = none := by
  induction names with
  | nil => rfl
  | cons name names ih =>
    obtain ⟨hname, hnames⟩ := Bool.and_eq_true_iff.mp h
    simp only [usageList, ofText_ok hname, Option.isSome_none, Bool.false_eq_true, if_false]
    exact ih hnames

end XmlElement

/-- A mark that can be held is written without an error. -/
theorem XmlItem.write_held {mark : Marker} (h : mark.isHeld = true) (i : XmlItem) :
    (i.write mark).2 = none := by
  cases mark with
  | symbol text => exact XmlElement.ofText_ok h
  | string text => exact XmlElement.ofText_ok h
  | identifier name => exact XmlElement.named_ok h
  | other text => exact XmlElement.ofText_ok h
  | remark text => exact XmlElement.ofText_ok h
  | declaration name => exact XmlElement.named_ok h
  | usages names => exact XmlElement.usageList_ok h
  | _ => rfl

/-- A stroke that succeeds leaves the others to be drawn. -/
theorem Script.drawStrokes_of_step {e : Easel} {base : Nat} {s : Stroke} {strokes : List Stroke}
    {state next : e.State} (h : e.step state (s.shift base) = (next, none)) :
    drawStrokes e base (s :: strokes) state = drawStrokes e base strokes next := by
  rw [drawStrokes, h]

namespace XmlDraft

/-- **A stroke that can be held succeeds**, whatever was drawn before. -/
theorem step_held {s : Stroke} (h : s.isHeld = true) (d : XmlDraft) : (d.step s).2 = none := by
  cases s with
  | begin => rfl
  | preamble text => exact XmlElement.ofText_ok h
  | openSection name blurb =>
    obtain ⟨hname, hblurb⟩ := Bool.and_eq_true_iff.mp h
    rw [step, if_pos hname]
    cases blurb with
    | none => rfl
    | some text => exact XmlElement.ofText_ok hblurb
  | leaveSection => rfl
  | addItem helper => cases hc : d.container <;> simp only [step, hc]
  | write number mark =>
    cases hi : d.items[number]? with
    | none => simp only [step, hi]
    | some item =>
      have hmark : (item.write mark).2 = none := XmlItem.write_held h item
      simpa only [step, hi] using hmark

/-- So do runs of such strokes. -/
theorem draw_held {strokes : List Stroke} (h : ∀ s ∈ strokes, s.isHeld = true) (d : XmlDraft) :
    ∃ d', Script.drawStrokes xmlEasel 0 strokes d = (d', none) := by
  induction strokes generalizing d with
  | nil => exact ⟨d, rfl⟩
  | cons s strokes ih =>
    have hstep : xmlEasel.step d (s.shift 0) = ((d.step s).1, none) := by
      rw [s.shift_zero]
      exact Prod.ext rfl (step_held (h s List.mem_cons_self) d)
    obtain ⟨d', hrest⟩ := ih (fun q hq => h q (List.mem_cons_of_mem s hq)) (d.step s).1
    exact ⟨d', (Script.drawStrokes_of_step hstep).trans hrest⟩

/-- A section is opened only if its name and its blurb can be held. -/
theorem held_of_openSection {d : XmlDraft} {name : String} {blurb : Option String}
    (h : (d.step (.openSection name blurb)).2 = none) :
    isXmlText name = true ∧ blurb.all isXmlText = true := by
  unfold step at h
  dsimp only at h
  split at h
  · rename_i hname
    exact ⟨hname, (setElement_held h).1⟩
  · cases h

end XmlDraft

/-- Strokes that are all drawn succeed one by one. -/
theorem Script.step_of_drawn {e : Easel} {base : Nat} {strokes : List Stroke}
    {state state' : e.State} (h : drawStrokes e base strokes state = (state', none))
    {s : Stroke} (hs : s ∈ strokes) : ∃ at_ : e.State, (e.step at_ (s.shift base)).2 = none := by
  induction strokes generalizing state with
  | nil => cases hs
  | cons q strokes ih =>
    obtain ⟨next, hstep, hrest⟩ := drawStrokes_cons h
    rcases List.mem_cons.mp hs with rfl | hs
    · exact ⟨state, congrArg Prod.snd hstep⟩
    · exact ih hrest hs

/-! ## 2. Texts that are copied -/

/-- The text of a quoted mark. -/
def Marker.quoted? : Marker → Option String
  | .string text => some text
  | _ => none

namespace Script.Source

/-- What the item of a rule copies: the name and the blurb of the section it opens, and what its
    body quotes. -/
def copiedBy (s : Source) (mode : Mode) (r : Rule) : List String :=
  ((s.itemOf mode r).opens.elim [] fun name => name :: (s.blurbOf name).toList) ++
    r.body.leaves.filterMap fun leaf => (s.view.mark? mode leaf).bind Marker.quoted?

/-- **The texts that a manual copies** from the files it is drawn from. -/
def copied (s : Source) : List String :=
  (s.blurbOf preambleName).toList ++ ((s.usedRules s.recorded).flatMap (s.copiedBy .lexer) ++
    s.rules.parserRules.rules.flatMap (s.copiedBy .parser))

variable {s : Source} {lexerItems parserItems items : List Item} {m : UsageMap Nat}

theorem mem_copied_of_walked {mode : Mode} {r : Rule} (hr : s.Walked s.recorded mode r)
    {text : String} (h : text ∈ s.copiedBy mode r) : text ∈ s.copied := by
  refine List.mem_append_right _ ?_
  cases mode with
  | lexer =>
    have hused : r ∈ s.usedRules s.recorded := List.mem_filter.mpr ⟨hr.1, hr.2 rfl⟩
    exact List.mem_append_left _ (List.mem_flatMap.mpr ⟨r, hused, h⟩)
  | parser => exact List.mem_append_right _ (List.mem_flatMap.mpr ⟨r, hr.1, h⟩)

theorem forall_mem_copied {P : String → Prop} (hnotes : ∀ text ∈ s.blurbOf preambleName, P text)
    (hrules : ∀ mode r, s.Walked s.recorded mode r → ∀ text ∈ s.copiedBy mode r, P text) :
    ∀ text ∈ s.copied, P text := by
  refine List.forall_mem_append.mpr ⟨fun text h => hnotes text (Option.mem_toList.mp h),
    List.forall_mem_append.mpr ⟨fun text h => ?_, fun text h => ?_⟩⟩
  · obtain ⟨r, hr, htext⟩ := List.mem_flatMap.mp h
    obtain ⟨hr, hused⟩ := List.mem_filter.mp hr
    exact hrules .lexer r ⟨hr, fun _ => hused⟩ text htext
  · obtain ⟨r, hr, htext⟩ := List.mem_flatMap.mp h
    exact hrules .parser r (walked_of_mem_parserRules hr) text htext

/-! ## 3. Strokes of a manual -/

/-- What a flush lists are the referrers of a symbol. -/
theorem exists_of_mem_flush {H : Type} {m : UsageMap H} (hm : m.Sound) {handle : H}
    {names : List String} (h : (handle, names) ∈ m.flush) : ∃ x, names = m.referrers x := by
  obtain ⟨⟨x, u⟩, hmem, hwritten⟩ := List.mem_filterMap.mp h
  have hlookup := UsageMap.lookup_of_mem hm.distinct hmem
  refine ⟨x, ?_⟩
  unfold UsageMap.referrers UsageMap.find?
  rw [hlookup]
  dsimp only at hwritten
  split at hwritten
  · split at hwritten
    · cases hwritten
    · cases hwritten
      rfl
  · cases hwritten

section Held

variable (hwords : ∀ mode, ∀ r ∈ (s.rules.table mode).rules, IsWord r.name ∧ r.body.Named)
include hwords

/-- A body shows nothing that cannot be held, but for what it quotes. -/
theorem body_held {mode : Mode} {r : Rule} (hr : r ∈ (s.rules.table mode).rules)
    (hquoted : ∀ text ∈ s.copiedBy mode r, isXmlText text = true) :
    (s.itemOf mode r).body.Shows fun mark => mark.isHeld = true := by
  refine shows_layout (by decide) r.body 0 fun leaf hleaf mark hmark => ?_
  have htext : ∀ text, mark = .string text → isXmlText text = true := by
    rintro text rfl
    refine hquoted text (List.mem_append_right _ (List.mem_filterMap.mpr ⟨leaf, hleaf, ?_⟩))
    rw [hmark]
    rfl
  cases leaf with
  | reference name =>
    cases hmark
    exact isXmlText_of_isWord ((hwords mode r hr).2 name hleaf)
  | literal text =>
    unfold View.mark? at hmark
    dsimp only at hmark
    cases hshown : s.view.literals.shown? mode text with
    | none =>
      rw [hshown] at hmark
      cases hmark
      exact htext text rfl
    | some token =>
      rw [hshown] at hmark
      cases hmark
      -- the literal is shown as a token, and that is the name of a lexer rule
      obtain ⟨-, htoken⟩ := LiteralIndex.shown?_eq_some.mp hshown
      have hfound : (LiteralIndex.ofRules s.rules.lexerRules.rules).token? text = some token :=
        htoken
      rw [LiteralIndex.token?_ofRules] at hfound
      obtain ⟨q, hq, rfl⟩ := Option.map_eq_some_iff.mp hfound
      exact isXmlText_of_isWord (hwords .lexer q (List.mem_of_find?_eq_some hq)).1
  | charset text =>
    cases hmark
    exact htext text rfl
  | _ => cases hmark

theorem markers_held {mode : Mode} {r : Rule} (hr : r ∈ (s.rules.table mode).rules)
    (hquoted : ∀ text ∈ s.copiedBy mode r, isXmlText text = true) (isStart : Bool) :
    ∀ mark ∈ (s.itemOf mode r).markers isStart, mark.isHeld = true := by
  have hname : isXmlText r.name = true := isXmlText_of_isWord (hwords mode r hr).1
  have hbody := body_held hwords hr hquoted
  intro mark hmark
  unfold Item.markers at hmark
  simp only [List.mem_append, List.mem_cons, List.mem_ite_nil_right, Layout.newLine,
    List.mem_replicate, List.not_mem_nil, or_false] at hmark
  rcases hmark with ((hhead | hbreak) | hend)
  · rcases hhead with ⟨-, rfl⟩ | rfl | rfl | rfl | rfl | rfl | rfl | hmark
    · show isXmlText "start" = true
      decide
    · exact hname
    · rfl
    · rfl
    · rfl
    · show isXmlText ":" = true
      decide
    · rfl
    · exact hbody mark hmark
  · rcases hbreak with rfl | ⟨-, rfl⟩ <;> rfl
  · rcases hend with rfl | rfl
    · show isXmlText ";" = true
      decide
    · rfl

/-- The strokes that write rules, if what these copy can be held. -/
theorem itemsStrokes_held (hw : s.Walks lexerItems parserItems m)
    (h : ∀ text ∈ s.copied, isXmlText text = true) {current : Option String} {number : Nat}
    (hsub : ∀ i ∈ items, i ∈ lexerItems ++ parserItems) :
    ∀ stroke ∈ s.itemsStrokes current number items, stroke.isHeld = true := by
  intro stroke hstroke
  obtain ⟨i, hi, hcases⟩ := mem_itemsStrokes hstroke
  obtain ⟨mode, r, hr, rfl⟩ := hw.survey.mem_items.mp (hsub i hi)
  have hcopied : ∀ text ∈ s.copiedBy mode r, isXmlText text = true := fun text htext =>
    h text (mem_copied_of_walked (hw.recorded ▸ hr) htext)
  rcases hcases with ⟨name, hopens, rfl⟩ | rfl | ⟨number, mark, hmark, rfl⟩
  · have htexts : ∀ text ∈ name :: (s.blurbOf name).toList, isXmlText text = true := by
      intro text htext
      refine hcopied text (List.mem_append_left _ ?_)
      rw [hopens]
      exact htext
    have hblurb : (s.blurbOf name).all isXmlText = true := by
      cases hb : s.blurbOf name with
      | none => rfl
      | some text =>
        refine htexts text ?_
        rw [hb]
        exact List.mem_cons_of_mem _ List.mem_cons_self
    exact Bool.and_eq_true_iff.mpr ⟨htexts name List.mem_cons_self, hblurb⟩
  · rfl
  · exact markers_held hwords hr.1 hcopied _ mark hmark

/-- Usages list rules that were walked, and the names of these are words. -/
theorem usages_held (hw : s.Walks lexerItems parserItems m) :
    ∀ block ∈ (bound m 0 (lexerItems ++ parserItems)).flush,
      (Marker.usages block.2).isHeld = true := by
  intro ⟨number, names⟩ hblock
  obtain ⟨x, hx⟩ := exists_of_mem_flush (sound_bound hw.survey.sound 0 _) hblock
  rw [referrers_bound] at hx
  refine List.all_eq_true.mpr fun name hname => ?_
  have hname' : name ∈ m.referrers x := hx ▸ hname
  obtain ⟨-, mode, r, hr, rfl, -⟩ := (hw.survey.referrers x name).mp hname'
  exact isXmlText_of_isWord (hwords mode r hr.1).1

/-- **If all that is copied can be held, every stroke can be.** -/
theorem strokes_held (hw : s.Walks lexerItems parserItems m)
    (h : ∀ text ∈ s.copied, isXmlText text = true) :
    ∀ stroke ∈ s.strokes lexerItems parserItems m, stroke.isHeld = true := by
  unfold strokes
  refine List.forall_mem_append.mpr ⟨List.forall_mem_append.mpr ⟨List.forall_mem_append.mpr
    ⟨fun stroke hstroke => ?_, List.forall_mem_cons.mpr ⟨rfl, ?_⟩⟩,
    List.forall_mem_cons.mpr ⟨rfl, ?_⟩⟩, fun stroke hstroke => ?_⟩
  · obtain ⟨text, htext, rfl⟩ := Option.map_eq_some_iff.mp (Option.mem_toList.mp hstroke)
    exact h text (List.mem_append_left _ (Option.mem_toList.mpr htext))
  · exact itemsStrokes_held hwords hw h fun i hi => List.mem_append_left _ hi
  · exact itemsStrokes_held hwords hw h fun i hi => List.mem_append_right _ hi
  · obtain ⟨block, hblock, rfl⟩ := List.mem_map.mp hstroke
    exact usages_held hwords hw block hblock

end Held

/-- The section of an item is opened by the item, unless it is open already. -/
theorem openSection_mem_itemsStrokes (s : Source) {i : Item} {name : String} (hi : i ∈ items)
    (hopens : i.opens = some name) (current : Option String) (number : Nat) :
    current = some name ∨
      .openSection name (s.blurbOf name) ∈ s.itemsStrokes current number items := by
  induction items generalizing current number with
  | nil => cases hi
  | cons q is ih =>
    have hhead : ∀ {other}, q.opens = some other → current = some other ∨
        .openSection other (s.blurbOf other) ∈ s.itemsStrokes current number (q :: is) := by
      intro other hq
      by_cases hcurrent : current = some other
      · exact .inl hcurrent
      · refine .inr (List.mem_append_left _ (List.mem_append_left _ ?_))
        unfold openingStrokes
        rw [hq]
        dsimp only
        rw [if_neg hcurrent]
        exact List.mem_cons_self
    rcases List.mem_cons.mp hi with rfl | hi
    · exact hhead hopens
    · rcases ih hi (q.opens.or current) (number + 1) with hopen | hmem
      · cases hq : q.opens with
        | none =>
          rw [hq] at hopen
          exact .inl hopen
        | some other =>
          rw [hq] at hopen
          cases hopen
          exact hhead hq
      · exact .inr (List.mem_append_right _ hmem)

/-- The sheet of an item is among those that are left, with its usages. -/
theorem sheet_mem_finalSheets {i : Item} (h : i ∈ items) :
    ∃ blocks : List (List String),
      s.sheetOf i ++ blocks.map .usages ∈ s.finalSheets items m := by
  obtain ⟨number, hlt, rfl⟩ := List.mem_iff_getElem.mp h
  refine ⟨(bound m 0 items).flushedAt number, List.mem_of_getElem? (i := number) ?_⟩
  rw [getElem?_finalSheets, List.getElem?_eq_getElem hlt]
  rfl

/-- The section of every item is opened. -/
theorem openSection_mem_strokes {i : Item} {name : String} (hi : i ∈ lexerItems ++ parserItems)
    (hopens : i.opens = some name) :
    .openSection name (s.blurbOf name) ∈ s.strokes lexerItems parserItems m := by
  refine List.mem_append_left _ ?_
  rcases List.mem_append.mp hi with hi | hi
  · have hmem := s.openSection_mem_itemsStrokes hi hopens none 0
    exact List.mem_append_left _ (List.mem_append_right _
      (List.mem_cons_of_mem _ (hmem.resolve_left nofun)))
  · have hmem := s.openSection_mem_itemsStrokes hi hopens none lexerItems.length
    exact List.mem_append_right _ (List.mem_cons_of_mem _ (hmem.resolve_left nofun))

/-- What the body of a rule quotes stands on the sheet of its item. -/
theorem string_mem_sheetOf {mode : Mode} {r : Rule} {leaf : Expr} {text : String}
    (hleaf : leaf ∈ r.body.leaves) (hmark : s.view.mark? mode leaf = some (.string text)) :
    .string text ∈ s.sheetOf (s.itemOf mode r) := by
  have hbody : .string text ∈ (s.itemOf mode r).body.markers := leaf_mem_layout hmark r.body 0 hleaf
  unfold sheetOf Item.markers
  simp [hbody]

/-- **All that is copied stands in a finished document**, and there it is held. -/
theorem copied_held (hw : s.Walks lexerItems parserItems m) {d d' : XmlDraft}
    (hdrawn : drawStrokes xmlEasel 0 (s.strokes lexerItems parserItems m) d = (d', none))
    (hmarks : ∀ sheet ∈ s.finalSheets (lexerItems ++ parserItems) m, ∀ mark ∈ sheet,
      mark.isHeld = true) :
    ∀ text ∈ s.copied, isXmlText text = true := by
  have hdone : ∀ stroke ∈ s.strokes lexerItems parserItems m,
      ∃ d : XmlDraft, (d.step stroke).2 = none := by
    intro stroke hstroke
    obtain ⟨at_, hstep⟩ := step_of_drawn hdrawn hstroke
    rw [stroke.shift_zero] at hstep
    exact ⟨at_, hstep⟩
  refine forall_mem_copied (fun text htext => ?_) fun mode r hr => ?_
  · have hmem : .preamble text ∈ s.strokes lexerItems parserItems m :=
      List.mem_append_left _ (List.mem_append_left _ (List.mem_append_left _
        (Option.mem_toList.mpr (Option.map_eq_some_iff.mpr ⟨text, htext, rfl⟩))))
    obtain ⟨d, hd⟩ := hdone _ hmem
    exact XmlElement.ofText_held hd
  · have hitem : s.itemOf mode r ∈ lexerItems ++ parserItems :=
      hw.survey.mem_items.mpr ⟨mode, r, hw.recorded ▸ hr, rfl⟩
    refine List.forall_mem_append.mpr ⟨fun text htext => ?_, fun text htext => ?_⟩
    · cases hopens : (s.itemOf mode r).opens with
      | none =>
        rw [hopens] at htext
        cases htext
      | some name =>
        rw [hopens] at htext
        obtain ⟨d, hd⟩ := hdone _ (openSection_mem_strokes hitem hopens)
        obtain ⟨hname, hblurb⟩ := XmlDraft.held_of_openSection hd
        rcases List.mem_cons.mp htext with rfl | htext
        · exact hname
        · rw [Option.mem_toList.mp htext] at hblurb
          exact hblurb
    · obtain ⟨leaf, hleaf, hquoted⟩ := List.mem_filterMap.mp htext
      obtain ⟨mark, hmark, htext⟩ := Option.bind_eq_some_iff.mp hquoted
      obtain ⟨blocks, hsheet⟩ := sheet_mem_finalSheets (m := m) hitem
      cases mark with
      | string other =>
        cases htext
        exact hmarks _ hsheet _ (List.mem_append_left _ (string_mem_sheetOf hleaf hmark))
      | _ => cases htext

end Script.Source

/-! ## 4. Manuals -/

/-- What ends a performance whose script does not end early is a stroke. -/
theorem Script.error_of_stroke {e : Easel} {script : Script} {state : e.State} {err : ManualError}
    (hstop : script.stop = none) (h : (script.perform e state).2.result = .error err) :
    ∃ why, err = .stroke why := by
  obtain ⟨log, hlog⟩ := performSteps_strokes e (e.itemCount state) script.steps state
  unfold perform at h
  rw [hlog, hstop] at h
  dsimp only at h
  cases hdrawn : (drawStrokes e (e.itemCount state) (strokesOf script.steps) state).2 with
  | none =>
    rw [hdrawn] at h
    cases h
  | some why =>
    rw [hdrawn] at h
    exact ⟨why, (Except.error.inj h).symm⟩

open Script in
/-- **XML refuses what it cannot hold, and nothing else.** Where the manual of loaded grammars is
    finished as text, it is finished as XML if all texts that are copied from files can be held;
    else there is no document. -/
theorem xml_refuses_unheld [PatternLanguage] {files docs : FileTree} {parserPath : Path}
    {lexerPath : Option Path}
    {rules : RuleSet} {settings : Settings} {text : String}
    (hload : (RuleSet.load files parserPath lexerPath).result = .ok rules)
    (htext : (rules.manual .text settings docs).result = .ok text) :
    ∃ s : Source, s.rules = rules ∧ s.settings = settings ∧ s.files = docs ∧
      Pattern.read settings.pattern = .ok s.pattern ∧
      (rules.manual .xml settings docs).result =
        if ∀ copy ∈ s.copied, isXmlText copy = true then
          .ok (rules.xmlDraft settings docs).tree.document
        else .error (.stroke .unprintable) := by
  have hstop := (perform_ok htext).1
  obtain ⟨s, rfl, rfl, rfl, hpattern, lexerItems, parserItems, m, hw, -, hstrokes, hsheets⟩ :=
    RuleSet.script_strokes hstop
  refine ⟨s, rfl, rfl, rfl, hpattern, ?_⟩
  split
  · rename_i hall
    have hheld := Source.strokes_held (words_of_load hload) hw hall
    have hbegin : Stroke.begin.isHeld = true := rfl
    obtain ⟨d, hdrawn⟩ := XmlDraft.draw_held (List.forall_mem_cons.mpr ⟨hbegin, hheld⟩) {}
    have hscript : drawStrokes xmlEasel (xmlEasel.itemCount xmlEasel.fresh)
        (strokesOf (s.rules.script s.settings s.files).steps) xmlEasel.fresh = (d, none) := by
      rw [hstrokes]
      exact hdrawn
    obtain ⟨hd, hresult⟩ := perform_of_drawn hstop hscript
    exact hresult.trans (congrArg (fun d : XmlDraft => Except.ok d.tree.document) hd.symm)
  · rename_i hnone
    cases hresult : (s.rules.manual .xml s.settings s.files).result with
    | error err =>
      obtain ⟨why, rfl⟩ := error_of_stroke hstop hresult
      rfl
    | ok document =>
      -- a finished document has drawn every stroke, and its sheets hold every mark
      obtain ⟨inner, hsplit, hinner, -⟩ := s.strokes_inner lexerItems parserItems m
      have hdraws : (s.rules.script s.settings s.files).Draws
          (s.blurbOf Source.preambleName) inner := ⟨hsplit ▸ hstrokes, hinner, hstop⟩
      obtain ⟨hfollows, -⟩ := hdraws.xml hresult
      obtain ⟨hdrawn, -⟩ := perform_drawn hresult
      rw [hstrokes] at hdrawn
      obtain ⟨begun, -, hrest⟩ := drawStrokes_cons hdrawn
      refine absurd (Source.copied_held hw hrest fun sheet hsheet => ?_) hnone
      exact hfollows.marks sheet (by rw [hdraws.sheets, hsheets]; exact hsheet)

/-- A section and a literal with characters that XML has other uses for. -/
def tabbedGrammar : FileTree := .ofGrammar "grammar T;\n// SECTION: A & B\n\nr: '<\t&' ;\n"

/-- What both formats make of it. -/
theorem xml_refuses_unheld_tabbed : ∃ (rules : RuleSet) (text : String) (s : Script.Source),
    (RuleSet.load tabbedGrammar grammarPath none).result = .ok rules ∧
      (rules.manual .text {} {}).result = .ok text ∧ s.rules = rules ∧
      (rules.manual .xml {} {}).result =
        if ∀ copy ∈ s.copied, isXmlText copy = true then
          .ok (rules.xmlDraft {} {}).tree.document
        else .error (.stroke .unprintable) := by
  have hdone : ((RuleSet.load tabbedGrammar grammarPath none).result.toOption.map fun rules =>
      (rules.manual .text {} {}).result.toBool) = some true := by decide +kernel
  cases hload : (RuleSet.load tabbedGrammar grammarPath none).result with
  | error e =>
    rw [hload] at hdone
    cases hdone
  | ok rules =>
    rw [hload] at hdone
    have hbool : (rules.manual .text {} {}).result.toBool = true := Option.some.inj hdone
    cases htext : (rules.manual .text {} {}).result with
    | error e =>
      rw [htext] at hbool
      cases hbool
    | ok text =>
      obtain ⟨s, hrules, -, -, -, hxml⟩ := xml_refuses_unheld hload htext
      exact ⟨rules, text, s, rfl, htext, hrules, hxml⟩

/-- A grammar with a control character in a literal. -/
def controlGrammar : FileTree := .ofGrammar "grammar T;\nr: '\x01' ;\n"

/-- Its manual is finished as text and refused as XML. -/
theorem control_literal_unprintable : ∃ (rules : RuleSet) (text : String),
    (RuleSet.load controlGrammar grammarPath none).result = .ok rules ∧
      (rules.manual .text {} {}).result = .ok text ∧
      (rules.manual .xml {} {}).result = .error (.stroke .unprintable) := by
  have hboth : ((RuleSet.load controlGrammar grammarPath none).result.toOption.map fun rules =>
      ((rules.manual .text {} {}).result.toBool, (rules.manual .xml {} {}).result.toBool)) =
        some (true, false) := by decide +kernel
  cases hload : (RuleSet.load controlGrammar grammarPath none).result with
  | error e =>
    rw [hload] at hboth
    cases hboth
  | ok rules =>
    rw [hload] at hboth
    obtain ⟨htext, hxml⟩ := Prod.mk.inj (Option.some.inj hboth)
    cases hdone : (rules.manual .text {} {}).result with
    | error e =>
      rw [hdone] at htext
      cases htext
    | ok text =>
      cases hrefused : (rules.manual .xml {} {}).result with
      | ok document =>
        rw [hrefused] at hxml
        cases hxml
      | error e =>
        have hstop : (rules.script {} {}).stop = none := by
          unfold RuleSet.manual at hdone
          exact (Script.perform_ok hdone).1
        obtain ⟨why, rfl⟩ : ∃ why, e = .stroke why := by
          unfold RuleSet.manual at hrefused
          exact Script.error_of_stroke hstop hrefused
        cases why
        exact ⟨rules, text, rfl, hdone, hrefused⟩

end GrammarManual
