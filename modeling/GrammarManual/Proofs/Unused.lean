import GrammarManual.Proofs.Strokes

/-!
# Proofs/Unused: rules that are left out have no influence

A manual leaves out the lexer rules that no other documented rule refers to. Deleting some of them
from the rule set gives the same manual: the run without them goes the same way step by step, with
usages that only lack the deleted names.

* `RuleSet.without`, `UsageMap.without` -- rules and usages but for some names;
* `LiteralIndex.token?_ofRules` -- the token of a literal is the first rule that consists of it, so
  deleting a rule that no parser rule needs promotes no other;
* `Omits` -- what is known of names that a survey leaves out: no walk hears of them;
* `lexerRound_without`, `Rounds.without` -- a round, and the loop over rounds, without the deleted
  rules;
* **`unused_rules_have_no_influence`** -- the same strokes, the same document, on every easel.
-/

namespace GrammarManual

/-! ## 1. Rules and usages without some names -/

/-- The rules of a table but for some names. -/
def RuleTable.without (t : RuleTable) (gone : String → Bool) : RuleTable where
  rules := t.rules.filter fun r => !gone r.name
  distinct := (List.filter_sublist.map Rule.name).nodup t.distinct

/-- A rule set without the lexer rules of some names. The source lines stay as they are. -/
def RuleSet.without (g : RuleSet) (gone : String → Bool) : RuleSet :=
  { g with lexerRules := g.lexerRules.without gone }

theorem RuleSet.lines_without (g : RuleSet) (gone : String → Bool) (mode : Mode) :
    (g.without gone).lines mode = g.lines mode := by
  cases mode <;> rfl

namespace UsageMap

variable {H : Type} {gone : String → Bool}

/-- Usages without the entries of some names. -/
def without (m : UsageMap H) (gone : String → Bool) : UsageMap H :=
  ⟨m.entries.filter fun e => !gone e.1⟩

theorem lookup_without {x : String} (hx : gone x = false) (entries : List (String × Usage H)) :
    (entries.filter fun e => !gone e.1).lookup x = entries.lookup x := by
  induction entries with
  | nil => rfl
  | cons e rest ih =>
    obtain ⟨s, u⟩ := e
    by_cases hs : gone s = true
    · have hne : (x == s) = false := by
        simp only [beq_eq_false_iff_ne, ne_eq]
        intro h
        rw [h, hs] at hx
        cases hx
      rw [List.filter_cons_of_neg (by simp [hs]), List.lookup_cons, hne, ih]
    · rw [List.filter_cons_of_pos (by simp [hs]), List.lookup_cons, List.lookup_cons, ih]

theorem update_without {symbol : String} (h : gone symbol = false) (f : Usage H → Usage H)
    (entries : List (String × Usage H)) :
    (update symbol f entries).filter (fun e => !gone e.1) =
      update symbol f (entries.filter fun e => !gone e.1) := by
  induction entries with
  | nil => simp [update, h]
  | cons e rest ih =>
    obtain ⟨s, u⟩ := e
    by_cases hs : s = symbol
    · subst hs
      simp [update, h]
    · by_cases hg : gone s = true
      · simp [update, hs, hg, ih]
      · simp [update, hs, hg, ih]

theorem update_of_gone {symbol : String} (h : gone symbol = true) (f : Usage H → Usage H)
    (entries : List (String × Usage H)) :
    (update symbol f entries).filter (fun e => !gone e.1) =
      entries.filter fun e => !gone e.1 := by
  induction entries with
  | nil => simp [update, h]
  | cons e rest ih =>
    obtain ⟨s, u⟩ := e
    by_cases hs : s = symbol
    · subst hs
      simp [update, h]
    · by_cases hg : gone s = true
      · simp [update, hs, hg, ih]
      · simp [update, hs, hg, ih]

theorem referrers_without {x : String} (hx : gone x = false) (m : UsageMap H) :
    (m.without gone).referrers x = m.referrers x := by
  unfold referrers find? without
  rw [lookup_without hx]

theorem isUsed_without {x : String} (hx : gone x = false) (m : UsageMap H) :
    (m.without gone).isUsed x = m.isUsed x := by
  unfold isUsed
  rw [referrers_without hx]

theorem record_without {symbol : String} (h : gone symbol = false) (referrer : String)
    (m : UsageMap H) :
    (m.record symbol referrer).without gone = (m.without gone).record symbol referrer :=
  congrArg UsageMap.mk (update_without h _ m.entries)

theorem recordAll_without {symbols : List String} (h : ∀ x ∈ symbols, gone x = false)
    (referrer : String) (m : UsageMap H) :
    (m.recordAll referrer symbols).without gone = (m.without gone).recordAll referrer symbols := by
  induction symbols generalizing m with
  | nil => rfl
  | cons s ss ih =>
    have hrest := ih (fun x hx => h x (List.mem_cons_of_mem _ hx)) (m.record s referrer)
    rw [record_without (h s List.mem_cons_self)] at hrest
    exact hrest

theorem bind_without {symbol : String} (h : gone symbol = false) (handle : H) (m : UsageMap H) :
    (m.bind symbol handle).without gone = (m.without gone).bind symbol handle :=
  congrArg UsageMap.mk (update_without h _ m.entries)

theorem seed_without (symbols : List String) (m : UsageMap H) :
    (m.seed symbols).without gone =
      (m.without gone).seed (symbols.filter fun x => !gone x) := by
  induction symbols generalizing m with
  | nil => rfl
  | cons s ss ih =>
    have hrest := ih ⟨update s id m.entries⟩
    by_cases hs : gone s = true
    · rw [List.filter_cons_of_neg (by simp [hs])]
      unfold without at hrest ⊢
      rw [update_of_gone hs] at hrest
      exact hrest
    · have hs' : gone s = false := by simpa using hs
      rw [List.filter_cons_of_pos (by simp [hs'])]
      unfold without at hrest ⊢
      rw [update_without hs'] at hrest
      exact hrest

/-- Names that nobody refers to are not flushed. -/
theorem flush_without {m : UsageMap H} (hm : m.Sound)
    (h : ∀ x, gone x = true → m.isUsed x = false) : (m.without gone).flush = m.flush := by
  have hnone : ∀ e ∈ m.entries, gone e.1 = true → e.2.referrers = [] := by
    rintro ⟨s, u⟩ he hs
    have hl : m.entries.lookup s = some u := lookup_of_mem hm.distinct he
    have hu : (!u.referrers.isEmpty) = false := by
      have hused := h s hs
      unfold isUsed referrers find? at hused
      rw [hl] at hused
      exact hused
    simpa using hu
  unfold flush without
  rw [List.filterMap_filter]
  refine List.filterMap_congr fun e he => ?_
  by_cases hs : gone e.1 = true
  · have hempty := hnone e he hs
    cases hh : e.2.handle <;> simp [hs, hh, hempty]
  · simp [hs]

end UsageMap

/-! ## 2. Literals -/

/-- Whether a lexer rule consists of a literal that parser rules may use. -/
def Rule.standsFor (text : String) (r : Rule) : Bool :=
  !r.fragment && decide (r.singleLiteral? = some text)

namespace LiteralIndex

theorem token?_note (i : LiteralIndex) (literal name text : String) :
    (i.note literal name).token? text =
      (i.token? text).or (if text = literal then some name else none) := by
  unfold note
  split
  · rename_i h
    obtain ⟨token, htoken⟩ := Option.isSome_iff_exists.mp h
    by_cases ht : text = literal
    · rw [ht, htoken]
      rfl
    · rw [if_neg ht, Option.or_none]
  · unfold token?
    rw [List.lookup_append, List.lookup_cons, List.lookup_nil]
    by_cases ht : text = literal
    · simp [ht]
    · have hne : (text == literal) = false := by simpa using ht
      simp [ht, hne]

theorem token?_foldl (rs : List Rule) (i : LiteralIndex) (text : String) :
    (rs.foldl (fun i r =>
      match r.fragment, r.singleLiteral? with
      | false, some literal => i.note literal r.name
      | _, _ => i) i).token? text =
      (i.token? text).or ((rs.find? (Rule.standsFor text)).map Rule.name) := by
  induction rs generalizing i with
  | nil => simp
  | cons r rs ih =>
    rw [List.foldl_cons, ih, List.find?_cons]
    cases hf : r.fragment with
    | true => simp [Rule.standsFor, hf]
    | false =>
      cases hl : r.singleLiteral? with
      | none => simp [Rule.standsFor, hf, hl]
      | some literal =>
        dsimp only
        rw [token?_note, Option.or_assoc]
        by_cases ht : text = literal
        · subst ht
          simp [Rule.standsFor, hf, hl]
        · have hne : ¬ literal = text := fun e => ht e.symm
          simp [Rule.standsFor, hf, hl, ht, hne]

/-- **The token of a literal** is the first rule that stands for it. -/
theorem token?_ofRules (rs : List Rule) (text : String) :
    (ofRules rs).token? text = (rs.find? (Rule.standsFor text)).map Rule.name :=
  token?_foldl rs [] text

end LiteralIndex

/-- What is found is found among fewer, if it is one of them. -/
theorem find?_filter_of_keep {α : Type} {p keep : α → Bool} {as : List α}
    (h : ∀ a, as.find? p = some a → keep a = true) : (as.filter keep).find? p = as.find? p := by
  induction as with
  | nil => rfl
  | cons a as ih =>
    by_cases hp : p a = true
    · have hkeep : keep a = true := h a (List.find?_cons_of_pos hp)
      rw [List.filter_cons_of_pos hkeep, List.find?_cons_of_pos hp, List.find?_cons_of_pos hp]
    · have hrest := ih fun b hb => h b (by rw [List.find?_cons_of_neg hp, hb])
      rw [List.find?_cons_of_neg hp, ← hrest]
      by_cases hkeep : keep a = true
      · rw [List.filter_cons_of_pos hkeep, List.find?_cons_of_neg hp]
      · rw [List.filter_cons_of_neg hkeep]

/-! ## 3. Bodies -/

namespace Expr

mutual

/-- A layout depends on a view by its limit and by the literals of the expression. -/
theorem layout_congr {v w : View} {mode : Mode} (hlimit : v.limit = w.limit) :
    ∀ (e : Expr) (depth : Nat),
      (∀ text, .literal text ∈ e.leaves → v.literal mode text = w.literal mode text) →
      e.layout v mode depth = e.layout w mode depth
  | .sequence items, depth, h => by
      rw [layout, layout, layoutAll_congr hlimit items depth h, hlimit]
  | .choice alternatives, depth, h => by
      rw [layout, layout, layoutAll_congr hlimit alternatives (depth + 1) h]
  | .tokenSet members, depth, h => by
      rw [layout, layout, layoutAll_congr hlimit members (depth + 1) h]
  | .repeated operand times greedy, depth, h => by
      rw [layout, layout, layout_congr hlimit operand depth h]
  | .negated operand, depth, h => by
      rw [layout, layout, layout_congr hlimit operand depth h]
  | .range first last, depth, h => by
      have hfirst := layout_congr hlimit first depth fun text ht =>
        h text (by rw [leaves]; exact List.mem_append_left _ ht)
      have hlast := layout_congr hlimit last depth fun text ht =>
        h text (by rw [leaves]; exact List.mem_append_right _ ht)
      rw [layout, layout, hfirst, hlast]
  | .reference _, _, _ => rfl
  | .literal text, depth, h => by
      rw [layout, layout, h text List.mem_cons_self]
  | .charset _, _, _ => rfl
  | .wildcard, _, _ => rfl
  | .predicate _, _, _ => rfl
  | .action _, _, _ => rfl
  | .foreign, _, _ => rfl

theorem layoutAll_congr {v w : View} {mode : Mode} (hlimit : v.limit = w.limit) :
    ∀ (es : List Expr) (depth : Nat),
      (∀ text, .literal text ∈ leavesAll es → v.literal mode text = w.literal mode text) →
      layoutAll v mode depth es = layoutAll w mode depth es
  | [], _, _ => rfl
  | e :: es, depth, h => by
      have hfirst := layout_congr hlimit e depth fun text ht =>
        h text (by rw [leavesAll]; exact List.mem_append_left _ ht)
      have hrest := layoutAll_congr hlimit es depth fun text ht =>
        h text (by rw [leavesAll]; exact List.mem_append_right _ ht)
      rw [layoutAll, layoutAll, hfirst, hrest]

end

end Expr

theorem View.heard_congr {v w : View} {mode : Mode} {e : Expr}
    (h : ∀ text, .literal text ∈ e.leaves → v.literal mode text = w.literal mode text) :
    v.heard mode e = w.heard mode e := by
  refine List.filterMap_congr fun leaf hleaf => ?_
  have hmem : leaf ∈ e.leaves := (List.takeWhile_prefix _).subset hleaf
  cases leaf with
  | literal text => exact congrArg (fun shown => some shown.2) (h text hmem)
  | _ => rfl

namespace Script.Source

/-! ## 4. Walks over what is left -/

/-- A source without the lexer rules of some names. -/
def without (s : Source) (gone : String → Bool) : Source :=
  { s with rules := s.rules.without gone }

/-- **Names that a run leaves out**: nobody refers to them, no rule that is walked has one of them,
    and no walk hears of them. -/
structure Omits (s : Source) (m : UsageMap Nat) (gone : String → Bool) : Prop where
  unused : ∀ x, gone x = true → m.isUsed x = false
  unwalked : ∀ mode r, s.Walked m mode r → gone r.name = false
  unheard : ∀ mode r, s.Walked m mode r → ∀ x ∈ s.view.heard mode r.body, gone x = false

variable {s : Source} {gone : String → Bool} {lexerItems parserItems : List Item}
  {m : UsageMap Nat}

/-- Lexer rules that no item of a survey has the name of are left out. -/
theorem Survey.omits (h : Survey s lexerItems parserItems m)
    (hlexer : ∀ x, gone x = true → x ∈ s.rules.lexerRules.names)
    (hnone : ∀ x, gone x = true → x ∉ (lexerItems ++ parserItems).map fun i => i.rule.name) :
    s.Omits m gone := by
  have hwalked : ∀ mode r, s.Walked m mode r → gone r.name = false := by
    intro mode r hr
    by_contra hg
    have hgone : gone r.name = true := by simpa using hg
    exact hnone r.name hgone (List.mem_map.mpr ⟨_, h.mem_items.mpr ⟨mode, r, hr, rfl⟩, rfl⟩)
  have hunused : ∀ x, gone x = true → m.isUsed x = false := by
    intro x hx
    by_contra hu
    have hused : m.isUsed x = true := by simpa using hu
    obtain ⟨r, hr, rfl⟩ := List.mem_map.mp (hlexer x hx)
    have hkept := hwalked .lexer r ⟨hr, fun _ => hused⟩
    rw [hx] at hkept
    cases hkept
  refine ⟨hunused, hwalked, fun mode r hr x hx => ?_⟩
  by_contra hg
  have hgone : gone x = true := by simpa using hg
  -- whoever hears of another name refers to it
  have hne : x ≠ r.name := by
    rintro rfl
    rw [hwalked mode r hr] at hgone
    cases hgone
  have href : r.name ∈ m.referrers x :=
    (h.referrers x r.name).mpr ⟨hne, mode, r, hr, rfl, hx⟩
  have hused := UsageMap.isUsed_iff.mpr ⟨_, href⟩
  rw [hunused x hgone] at hused
  cases hused

/-- **Literals are shown alike** in a rule that is walked. -/
theorem Omits.literal (h : s.Omits m gone) {mode : Mode} {r : Rule} (hr : s.Walked m mode r)
    (hplain : r.body.isPlain = true) {text : String} (htext : .literal text ∈ r.body.leaves) :
    (s.without gone).view.literal mode text = s.view.literal mode text := by
  cases mode with
  | lexer => rfl
  | parser =>
    have htoken :
        (s.without gone).view.literals.token? text = s.view.literals.token? text := by
      show (LiteralIndex.ofRules (s.rules.lexerRules.rules.filter fun q => !gone q.name)).token? text
        = (LiteralIndex.ofRules s.rules.lexerRules.rules).token? text
      rw [LiteralIndex.token?_ofRules, LiteralIndex.token?_ofRules, find?_filter_of_keep]
      intro q hq
      -- the rule found is heard of, so it is not left out
      have hshown : s.view.literals.shown? .parser text = some q.name := by
        refine LiteralIndex.shown?_eq_some.mpr ⟨rfl, ?_⟩
        show (LiteralIndex.ofRules s.rules.lexerRules.rules).token? text = some q.name
        rw [LiteralIndex.token?_ofRules, hq]
        rfl
      have hheard : q.name ∈ s.view.heard .parser r.body := by
        refine View.mem_heard_of_leaf hplain htext (congrArg some ?_)
        rw [View.literal_eq, hshown]
      rw [h.unheard .parser r hr _ hheard]
      rfl
    unfold View.literal
    rw [htoken]

theorem Omits.heard (h : s.Omits m gone) {mode : Mode} {r : Rule} (hr : s.Walked m mode r)
    (hplain : r.body.isPlain = true) :
    (s.without gone).view.heard mode r.body = s.view.heard mode r.body :=
  View.heard_congr fun _ ht => h.literal hr hplain ht

/-- A rule that is walked is laid out alike. -/
theorem Omits.itemOf (h : s.Omits m gone) {mode : Mode} {r : Rule} (hr : s.Walked m mode r)
    (hplain : r.body.isPlain = true) : (s.without gone).itemOf mode r = s.itemOf mode r := by
  have hlimit : (s.without gone).view.limit = s.view.limit := rfl
  have hbody : r.body.layout (s.without gone).view mode 0 = r.body.layout s.view mode 0 :=
    Expr.layout_congr hlimit r.body 0 fun _ ht => h.literal hr hplain ht
  have hlines : (s.without gone).rules.lines mode = s.rules.lines mode :=
    s.rules.lines_without gone mode
  unfold Source.itemOf
  rw [hbody, hlines]
  rfl

/-- What a rule that is walked leaves is the same but for the names left out. -/
theorem Omits.noted (h : s.Omits m gone) {mode : Mode} {r : Rule} (hr : s.Walked m mode r)
    (hplain : r.body.isPlain = true) (m' : UsageMap Nat) :
    (s.without gone).noted mode (m'.without gone) r = (s.noted mode m' r).without gone := by
  unfold Source.noted
  rw [h.heard hr hplain, UsageMap.recordAll_without (h.unheard mode r hr)]

/-! ## 5. Parser rules -/

theorem documentParser_run {rs : List Rule} (h : ∀ r ∈ rs, r.body.isPlain = true)
    (m : UsageMap Nat) :
    runFrom (s.documentParser rs) m =
      (.ok (rs.map (s.itemOf .parser)), rs.foldl (s.noted .parser) m) := by
  induction rs generalizing m with
  | nil => rfl
  | cons r rs ih =>
    have hitem : runFrom (s.item .parser r) m =
        (.ok (s.itemOf .parser r), s.noted .parser m r) := by
      rw [item_run, if_pos (h r List.mem_cons_self)]
    have hrest := ih (fun q hq => h q (List.mem_cons_of_mem _ hq)) (s.noted .parser m r)
    rw [documentParser, runFrom_bind_ok hitem, runFrom_bind_ok hrest]
    rfl

theorem Omits.notedAll (h : s.Omits m gone) {rs : List Rule}
    (hrs : ∀ r ∈ rs, s.Walked m .parser r ∧ r.body.isPlain = true) (m' : UsageMap Nat) :
    rs.foldl ((s.without gone).noted .parser) (m'.without gone) =
      (rs.foldl (s.noted .parser) m').without gone := by
  induction rs generalizing m' with
  | nil => rfl
  | cons r rs ih =>
    obtain ⟨hr, hplain⟩ := hrs r List.mem_cons_self
    rw [List.foldl_cons, List.foldl_cons, h.noted hr hplain]
    exact ih (fun q hq => hrs q (List.mem_cons_of_mem _ hq)) _

/-- The walk over the parser rules goes the same way. -/
theorem Omits.documentParser (h : s.Omits m gone) {m₀ m₁ : UsageMap Nat}
    (hrun : runFrom (s.documentParser s.rules.parserRules.rules) m₀ = (.ok parserItems, m₁)) :
    runFrom ((s.without gone).documentParser s.rules.parserRules.rules) (m₀.without gone) =
      (.ok parserItems, m₁.without gone) := by
  obtain ⟨hitems, hplain, hm₁⟩ := documentParser_ok hrun
  have hwalked : ∀ r ∈ s.rules.parserRules.rules,
      s.Walked m .parser r ∧ r.body.isPlain = true := fun r hr =>
    ⟨walked_of_mem_parserRules hr, hplain r hr⟩
  have hsame : s.rules.parserRules.rules.map ((s.without gone).itemOf .parser) =
      s.rules.parserRules.rules.map (s.itemOf .parser) :=
    List.map_congr_left fun r hr => h.itemOf (hwalked r hr).1 (hwalked r hr).2
  rw [documentParser_run hplain, h.notedAll hwalked, hsame, ← hitems, ← hm₁]

/-! ## 6. Rounds -/

section Rounds

variable {rs todo : List Rule} {done done' : List Item} {m₀ m₁ : UsageMap Nat}

theorem visits_subset {a b : List Item × UsageMap Nat} (h : Visits s rs a b) : a.1 ⊆ b.1 := by
  induction h with
  | refl => exact List.Subset.refl _
  | tail _ hv ih =>
    cases hv with
    | visit done m r => exact fun i hi => List.mem_append_left _ (ih hi)

/-- A round passes over a rule that is not used or was laid out before. -/
theorem lexerRound_pass {r : Rule}
    (h : m₀.isUsed r.name = true → r.name ∈ done.map fun i => i.rule.name) :
    runFrom (s.lexerRound (r :: todo) done) m₀ = runFrom (s.lexerRound todo done) m₀ := by
  have hget : runFrom (get : Walk Nat (UsageMap Nat)) m₀ = (.ok m₀, m₀) := rfl
  rw [lexerRound]
  cases hin : done.any fun i => i.rule.name = r.name with
  | true => rfl
  | false =>
    have hunused : m₀.isUsed r.name = false := by
      by_contra hu
      have hmem := h (by simpa using hu)
      rw [← any_name_iff, hin] at hmem
      cases hmem
    show runFrom ((get : Walk Nat (UsageMap Nat)) >>= _) m₀ = _
    rw [runFrom_bind_ok hget, hunused]
    rfl

/-- A round lays out a rule that is used and was not laid out before. -/
theorem lexerRound_visit {r : Rule} (hnew : r.name ∉ done.map fun i => i.rule.name)
    (hused : m₀.isUsed r.name = true) (hplain : r.body.isPlain = true) :
    runFrom (s.lexerRound (r :: todo) done) m₀ =
      runFrom (s.lexerRound todo (done ++ [s.itemOf .lexer r])) (s.noted .lexer m₀ r) := by
  have hget : runFrom (get : Walk Nat (UsageMap Nat)) m₀ = (.ok m₀, m₀) := rfl
  have hitem : runFrom (s.item .lexer r) m₀ = (.ok (s.itemOf .lexer r), s.noted .lexer m₀ r) := by
    rw [item_run, if_pos hplain]
  have hin : (done.any fun i => i.rule.name = r.name) = false := by
    by_contra h
    exact hnew ((any_name_iff done r.name).mp (by simpa using h))
  rw [lexerRound, hin]
  show runFrom ((get : Walk Nat (UsageMap Nat)) >>= _) m₀ = _
  rw [runFrom_bind_ok hget, hused]
  show runFrom (s.item .lexer r >>= _) m₀ = _
  rw [runFrom_bind_ok hitem]

/-- **A round goes the same way without the rules that are left out**, as long as it lays out none
    of them. -/
theorem Omits.lexerRound (h : s.Omits m gone) (htodo : ∀ r ∈ todo, r ∈ rs)
    (hwalked : ∀ i ∈ done', s.Walked m .lexer i.rule)
    (hrun : runFrom (s.lexerRound todo done) m₀ = (.ok done', m₁)) :
    runFrom ((s.without gone).lexerRound (todo.filter fun r => !gone r.name) done)
      (m₀.without gone) = (.ok done', m₁.without gone) := by
  induction todo generalizing done m₀ with
  | nil =>
    cases hrun
    rfl
  | cons r todo ih =>
    have hrest : ∀ q ∈ todo, q ∈ rs := fun q hq => htodo q (List.mem_cons_of_mem _ hq)
    rcases lexerRound_cons hrun with ⟨hpassed, hrun⟩ | ⟨hnew, hused, hplain, hrun⟩
    · by_cases hg : gone r.name = true
      · rw [List.filter_cons_of_neg (by simp [hg])]
        exact ih hrest hrun
      · have hkept : gone r.name = false := by simpa using hg
        rw [List.filter_cons_of_pos (by simp [hkept]), lexerRound_pass]
        · exact ih hrest hrun
        · rwa [UsageMap.isUsed_without hkept]
    · -- the rule belongs to what the run lays out in the end
      have hr : s.Walked m .lexer r := by
        obtain ⟨hv, -⟩ := lexerRound_visits hrest hrun
        have hmem : s.itemOf .lexer r ∈ done' :=
          visits_subset hv (List.mem_append_right _ List.mem_cons_self)
        exact hwalked _ hmem
      have hkept := h.unwalked .lexer r hr
      rw [List.filter_cons_of_pos (by simp [hkept]), lexerRound_visit hnew _ hplain,
        h.itemOf hr hplain, h.noted hr hplain]
      · exact ih hrest hrun
      · rwa [UsageMap.isUsed_without hkept]

/-- The loop over rounds comes to one end only. -/
theorem Rounds.unique {out out' : Except WalkError (List Item) × UsageMap Nat}
    (h : Rounds s rs done m₀ out) (h' : Rounds s rs done m₀ out') : out = out' := by
  induction h with
  | last hround hsame =>
    cases h' with
    | last hround' _ => exact hround.symm.trans hround'
    | again hround' hmore _ =>
      cases hround.symm.trans hround'
      exact absurd hsame hmore
    | broken hround' => cases hround.symm.trans hround'
  | again hround hmore _ ih =>
    cases h' with
    | last hround' hsame =>
      cases hround.symm.trans hround'
      exact absurd hsame hmore
    | again hround' _ hrest =>
      cases hround.symm.trans hround'
      exact ih hrest
    | broken hround' => cases hround.symm.trans hround'
  | broken hround =>
    cases h' with
    | last hround' _ => cases hround.symm.trans hround'
    | again hround' _ _ => cases hround.symm.trans hround'
    | broken hround' => exact hround.symm.trans hround'

/-- **The loop over rounds goes the same way without the rules that are left out.** -/
theorem Omits.rounds (h : s.Omits m gone)
    {out : Except WalkError (List Item) × UsageMap Nat} (hrounds : Rounds s rs done m₀ out)
    (hout : out = (.ok done', m₁)) (hwalked : ∀ i ∈ done', s.Walked m .lexer i.rule) :
    Rounds (s.without gone) (rs.filter fun r => !gone r.name) done (m₀.without gone)
      (.ok done', m₁.without gone) := by
  induction hrounds with
  | last hround hsame =>
    cases hout
    exact .last (h.lexerRound (fun r hr => hr) hwalked hround) hsame
  | again hround hmore hrest ih =>
    subst hout
    obtain ⟨hv, -⟩ := hrest.closed rfl
    refine .again (h.lexerRound (fun r hr => hr) (fun i hi => ?_) hround) hmore (ih rfl)
    exact hwalked i (visits_subset hv hi)
  | broken => cases hout

end Rounds

/-- **The lexer rules to document are the same** without those that are left out. -/
theorem Omits.documentLexer (h : s.Omits m gone) {m₁ : UsageMap Nat}
    (hrun : runFrom s.documentLexer m₁ = (.ok lexerItems, m)) :
    runFrom (s.without gone).documentLexer (m₁.without gone) =
      (.ok lexerItems, m.without gone) := by
  obtain ⟨done, m', hloop, hrun⟩ := runFrom_bind_eq_ok hrun
  cases hrun
  have hrounds := lexerRounds_ends s s.rules.lexerRules.rules m₁
  obtain ⟨hv, -⟩ := hrounds.closed hloop
  have hfound := found_of_visits hv
  have hwalked : ∀ i ∈ done, s.Walked m .lexer i.rule := fun i hi =>
    ⟨(hfound.items i hi).1, fun _ => hfound.used i hi⟩
  have hrounds' := h.rounds hrounds hloop hwalked
  have hends := lexerRounds_ends (s.without gone) (s.without gone).rules.lexerRules.rules
    (m₁.without gone)
  have hloop' := hends.unique hrounds'
  unfold Source.documentLexer
  dsimp only
  rw [runFrom_bind_ok hloop']
  -- the rules left out were not found
  have hsame : (s.rules.lexerRules.rules.filter fun r => !gone r.name).filterMap
      (fun r => done.find? fun i => i.rule.name = r.name) =
      s.rules.lexerRules.rules.filterMap fun r => done.find? fun i => i.rule.name = r.name := by
    rw [List.filterMap_filter]
    refine List.filterMap_congr fun r _ => ?_
    by_cases hg : gone r.name = true
    · have hnone : (done.find? fun i => i.rule.name = r.name) = none := by
        refine List.find?_eq_none.mpr fun i hi he => ?_
        have hname : i.rule.name = r.name := by simpa using he
        have hkept := h.unwalked .lexer i.rule (hwalked i hi)
        rw [hname, hg] at hkept
        cases hkept
      rw [hnone]
      simp
    · simp [hg]
  exact congrArg (fun items => (Except.ok items, m.without gone)) hsame

/-! ## 7. The manual -/

theorem Omits.names (h : s.Omits m gone) :
    s.rules.names.filter (fun x => !gone x) = (s.without gone).rules.names := by
  have hparser : s.rules.parserRules.names.filter (fun x => !gone x) =
      s.rules.parserRules.names := by
    refine List.filter_eq_self.mpr fun x hx => ?_
    obtain ⟨r, hr, rfl⟩ := List.mem_map.mp hx
    rw [h.unwalked .parser r (walked_of_mem_parserRules hr)]
    rfl
  have hlexer : s.rules.lexerRules.names.filter (fun x => !gone x) =
      (s.without gone).rules.lexerRules.names := List.filter_map
  unfold RuleSet.names
  rw [List.filter_append, hparser, hlexer]
  rfl

/-- **The walks yield the same items**, and usages that lack the names left out. -/
theorem Omits.walks (h : s.Omits m gone) (hwalks : s.Walks lexerItems parserItems m) :
    (s.without gone).Walks lexerItems parserItems (m.without gone) := by
  obtain ⟨m₁, hparser, hlexer⟩ := hwalks
  refine ⟨m₁.without gone, ?_, h.documentLexer hlexer⟩
  have hseed : (UsageMap.ofSymbols s.rules.names : UsageMap Nat).without gone =
      .ofSymbols (s.without gone).rules.names := by
    rw [← h.names]
    exact UsageMap.seed_without _ _
  rw [← hseed]
  exact h.documentParser hparser

theorem bound_without {items : List Item} (h : ∀ i ∈ items, gone i.rule.name = false)
    (m : UsageMap Nat) (n : Nat) :
    bound (m.without gone) n items = (bound m n items).without gone := by
  induction items generalizing m n with
  | nil => rfl
  | cons i is ih =>
    rw [bound, bound, ← UsageMap.bind_without (h i List.mem_cons_self)]
    exact ih (fun j hj => h j (List.mem_cons_of_mem _ hj)) _ _

theorem itemsStrokes_without (s : Source) (gone : String → Bool) (current : Option String)
    (number : Nat) (items : List Item) :
    (s.without gone).itemsStrokes current number items = s.itemsStrokes current number items := by
  induction items generalizing current number with
  | nil => rfl
  | cons i is ih =>
    rw [itemsStrokes, itemsStrokes, ih]
    rfl

/-- The strokes are the same: what is flushed never belongs to a name that is left out. -/
theorem Omits.strokes (h : s.Omits m gone) (hsurvey : Survey s lexerItems parserItems m) :
    (s.without gone).strokes lexerItems parserItems (m.without gone) =
      s.strokes lexerItems parserItems m := by
  have hkept : ∀ i ∈ lexerItems ++ parserItems, gone i.rule.name = false := by
    intro i hi
    obtain ⟨mode, r, hr, rfl⟩ := hsurvey.mem_items.mp hi
    exact h.unwalked mode r hr
  have hflush : (bound (m.without gone) 0 (lexerItems ++ parserItems)).flush =
      (bound m 0 (lexerItems ++ parserItems)).flush := by
    rw [bound_without hkept]
    refine UsageMap.flush_without (sound_bound hsurvey.sound _ _) fun x hx => ?_
    have hunused := h.unused x hx
    unfold UsageMap.isUsed at hunused ⊢
    rwa [referrers_bound]
  unfold Source.strokes
  rw [hflush, itemsStrokes_without, itemsStrokes_without]
  rfl

theorem allReadable_without (h : s.AllReadable lexerItems parserItems) (gone : String → Bool) :
    (s.without gone).AllReadable lexerItems parserItems := by
  refine ⟨h.preamble, fun name text hm => h.lexer name text ?_,
    fun name text hm => h.parser name text ?_⟩
  · rwa [itemsStrokes_without] at hm
  · rwa [itemsStrokes_without] at hm

end Script.Source

/-- **Lexer rules that a manual leaves out have no influence on it**, on any easel: deleted from the
    rule set, with the source lines as they were, they leave the same strokes and the same
    document. A rule is left out if no item has its name. -/
theorem unused_rules_have_no_influence [PatternLanguage] {rules : RuleSet} {settings : Settings}
    {files : FileTree}
    {e : Easel} {state : e.State} {document : String} (gone : String → Bool)
    (h : ((rules.script settings files).perform e state).2.result = .ok document)
    (hgone : ∀ x ∈ rules.lexerRules.names, gone x = true →
      some x ∉ (rules.script settings files).sheets.map Sheet.name?) :
    strokesOf ((rules.without gone).script settings files).steps =
        strokesOf (rules.script settings files).steps ∧
      (((rules.without gone).script settings files).perform e state).1 =
        ((rules.script settings files).perform e state).1 ∧
      (((rules.without gone).script settings files).perform e state).2.result = .ok document := by
  obtain ⟨hstop, -⟩ := Script.perform_ok h
  obtain ⟨s, rfl, rfl, rfl, hpattern, lexerItems, parserItems, m, hwalks, hread, hstrokes,
    hsheets⟩ := RuleSet.script_strokes hstop
  -- only names of lexer rules matter
  let dropped : String → Bool := fun x => gone x && s.rules.lexerRules.declares x
  have hsame : s.rules.without gone = s.rules.without dropped := by
    have hrules : s.rules.lexerRules.rules.filter (fun r => !gone r.name) =
        s.rules.lexerRules.rules.filter fun r => !dropped r.name := by
      refine List.filter_congr fun r hr => ?_
      have hdeclared : s.rules.lexerRules.declares r.name = true :=
        List.contains_iff_mem.mpr (List.mem_map_of_mem hr)
      show (!gone r.name) = !(gone r.name && s.rules.lexerRules.declares r.name)
      rw [hdeclared, Bool.and_true]
    simp only [RuleSet.without, RuleTable.without, hrules]
  have hlexer : ∀ x, dropped x = true → x ∈ s.rules.lexerRules.names := fun x hx =>
    List.contains_iff_mem.mp (Bool.and_eq_true_iff.mp hx).2
  have hnone : ∀ x, dropped x = true →
      x ∉ (lexerItems ++ parserItems).map fun i => i.rule.name := by
    intro x hx hmem
    refine hgone x (hlexer x hx) (Bool.and_eq_true_iff.mp hx).1 ?_
    rw [hsheets, Script.Source.map_finalSheets s.name?_final]
    obtain ⟨i, hi, rfl⟩ := List.mem_map.mp hmem
    exact List.mem_map.mpr ⟨i, hi, rfl⟩
  have hsurvey := hwalks.survey
  have homits : s.Omits m dropped := hsurvey.omits hlexer hnone
  have htotal := RuleSet.script_total (s := s.without dropped) hpattern (homits.walks hwalks)
    (Script.Source.allReadable_without hread dropped)
  rw [homits.strokes hsurvey, ← hstrokes] at htotal
  obtain ⟨hstop', hstrokes'⟩ := htotal
  rw [hsame]
  obtain ⟨hstate, hresult⟩ := Script.perform_congr e state hstrokes' (hstop'.trans hstop.symm)
  exact ⟨hstrokes', hstate, hresult.trans h⟩

/-- Of two tokens for one literal the first is shown; the second and a token above which a section
    is marked are left out. -/
def RuleSet.twoPluses : RuleSet where
  lexerRules :=
    { rules :=
        [{ name := "PLUS", body := .choice [.sequence [.literal "'+'"]], line := 3 },
          { name := "AND", body := .choice [.sequence [.literal "'+'"]], line := 4 },
          { name := "OR", body := .choice [.sequence [.literal "'|'"]], line := 7 },
          { name := "NUMBER", body := .choice [.sequence [.charset "0-9"]], line := 8 }]
      distinct := by decide }
  parserRules :=
    { rules :=
        [{ name := "sum", line := 9, body := .choice [.sequence
             [.reference "NUMBER", .literal "'+'", .reference "NUMBER"]] }]
      distinct := by decide }
  lexerLines := ["// SECTION: Signs", "", "PLUS: '+' ;", "AND: '+' ;", "// SECTION: Bits", "",
    "OR: '|' ;", "NUMBER: [0-9] ;", "sum: NUMBER '+' NUMBER ;"]

theorem unused_rules_have_no_influence_pluses : ∃ document,
    ((RuleSet.twoPluses.script {} {}).perform xmlEasel xmlEasel.fresh).2.result = .ok document ∧
      (((RuleSet.twoPluses.without fun x => x = "AND" ∨ x = "OR").script {} {}).perform xmlEasel
        xmlEasel.fresh).2.result = .ok document ∧
      (RuleSet.twoPluses.without fun x => x = "AND" ∨ x = "OR").lexerRules.names =
        ["PLUS", "NUMBER"] := by
  have hdone : ((RuleSet.twoPluses.script {} {}).perform xmlEasel xmlEasel.fresh).2.result.toBool =
      true := by decide +kernel
  have hnames : (RuleSet.twoPluses.script {} {}).sheets.map Sheet.name? =
      [some "PLUS", some "NUMBER", some "sum"] := by decide +kernel
  cases h : ((RuleSet.twoPluses.script {} {}).perform xmlEasel xmlEasel.fresh).2.result with
  | error e =>
    rw [h] at hdone
    cases hdone
  | ok document =>
    have hsame := unused_rules_have_no_influence (fun x => x = "AND" ∨ x = "OR") h
      fun x _ hx => by
        rw [hnames]
        rcases of_decide_eq_true hx with rfl | rfl <;> decide
    exact ⟨document, rfl, hsame.2.2, by decide⟩

end GrammarManual
