import GrammarManual.Proofs.Form

/-!
# Proofs/Reread: reading a body back from its marks

* `unwrap`, `Layout.flat` -- marks without line breaks; `unwrap_markers` says that all breaks of a
  body can be undone without knowing the width of its lines;
* `ReadState`, `read` -- a reader of marks with a stack of open groups. It needs no look ahead;
* **`read_markers`** -- the marks of a written body read back as its normal form;
* **`markers_determine_body`** -- bodies that are written alike have the same normal form.
-/

namespace GrammarManual

/-! ## 1. Undoing line breaks -/

/-- Puts a blank in the place of every line break and its indentation. -/
def unwrap : List Marker → List Marker
  | .lineBreak :: .whitespace :: .whitespace :: .whitespace :: .whitespace :: rest =>
    .whitespace :: unwrap rest
  | .lineBreak :: .whitespace :: .whitespace :: rest => .whitespace :: unwrap rest
  | mark :: rest => mark :: unwrap rest
  | [] => []

/-- What stands between two alternatives on one line. -/
def bar : List Marker := [.whitespace, .symbol "|", .whitespace]

namespace Layout

mutual

/-- The marks of a layout on one line. -/
def flat : Layout → List Marker
  | .nothing => []
  | .symbol text => [.symbol text]
  | .string text => [.string text]
  | .identifier name => [.identifier name]
  | .beside parts => (flatAll parts).flatten
  | .sequence items _ => List.intercalate [.whitespace] (flatItems items)
  | .choice alternatives brackets =>
    (if brackets then [.symbol "("] else []) ++ List.intercalate bar (flatAll alternatives) ++
      (if brackets then [.symbol ")"] else [])

def flatAll : List Layout → List (List Marker)
  | [] => []
  | l :: ls => flat l :: flatAll ls

def flatItems : List Layout → List (List Marker)
  | [] => []
  | l :: ls => if isItem l then flat l :: flatItems ls else flatItems ls

end

theorem flatAll_eq_map (ls : List Layout) : flatAll ls = ls.map flat := by
  induction ls with
  | nil => rfl
  | cons l ls ih => rw [flatAll, ih, List.map_cons]

theorem flatItems_eq_map (ls : List Layout) : flatItems ls = (ls.filter isItem).map flat := by
  induction ls with
  | nil => rfl
  | cons l ls ih =>
    rw [flatItems, ih]
    by_cases h : l.isItem = true
    · rw [if_pos h, List.filter_cons_of_pos h, List.map_cons]
    · rw [if_neg h, List.filter_cons_of_neg h]

/-- The breaks in the marks of a layout can be undone, whatever follows. -/
def Unwraps (l : Layout) : Prop :=
  ∀ rest, unwrap (l.markers ++ rest) = l.flat ++ unwrap rest

theorem unwrap_blank (rest : List Marker) :
    unwrap (.whitespace :: rest) = .whitespace :: unwrap rest := rfl

theorem unwrap_continuation (rest : List Marker) :
    unwrap (newLine continuationIndent ++ rest) = .whitespace :: unwrap rest := rfl

theorem unwrap_moreMarks {ls : List Layout} (h : ∀ l ∈ ls, l.Unwraps) (limit : Int) (used : Nat)
    (rest : List Marker) :
    unwrap (moreMarks limit used (ls.map piece) ++ rest) =
      (ls.flatMap fun l => .whitespace :: l.flat) ++ unwrap rest := by
  induction ls generalizing used with
  | nil => rfl
  | cons l ls ih =>
    have hgo : ∀ used, unwrap (l.piece.markers ++ (moreMarks limit used (ls.map piece) ++ rest)) =
        l.flat ++ ((ls.flatMap fun l => .whitespace :: l.flat) ++ unwrap rest) := fun used =>
      (h l List.mem_cons_self _).trans
        (congrArg (l.flat ++ ·) (ih (fun x hx => h x (List.mem_cons_of_mem _ hx)) used))
    rw [List.map_cons, moreMarks, List.flatMap_cons]
    split
    · simp only [List.append_assoc, List.cons_append]
      rw [unwrap_continuation, hgo]
    · simp only [List.append_assoc, List.cons_append]
      rw [unwrap_blank, hgo]

theorem unwraps_sequence {ls : List Layout} (h : ∀ l ∈ ls, l.Unwraps) (limit : Int) :
    (Layout.sequence ls limit).Unwraps := by
  intro rest
  have h' : ∀ l ∈ ls.filter isItem, l.Unwraps := fun l hl => h l (List.mem_filter.mp hl).1
  rw [markers, flat, pieces_eq_map, flatItems_eq_map]
  cases hls : ls.filter isItem with
  | nil => rfl
  | cons l more =>
    rw [hls] at h'
    rw [List.map_cons, List.map_cons, writeSequence_cons, intercalate_cons, List.flatMap_map,
      List.append_assoc, List.append_assoc]
    show unwrap (l.markers ++ (moreMarks limit _ _ ++ rest)) = _
    rw [h' l List.mem_cons_self,
      unwrap_moreMarks (fun x hx => h' x (List.mem_cons_of_mem _ hx)) limit _ rest]
    rfl

theorem unwrap_separator (brackets : Bool) (rest : List Marker) :
    unwrap (separator brackets ++ rest) = bar ++ unwrap rest := by
  cases brackets <;> rfl

theorem unwrap_alternatives {ls : List Layout} (h : ∀ l ∈ ls, l.Unwraps) (brackets : Bool)
    (rest : List Marker) :
    unwrap ((ls.flatMap fun l => separator brackets ++ l.markers) ++ rest) =
      (ls.flatMap fun l => bar ++ l.flat) ++ unwrap rest := by
  induction ls with
  | nil => rfl
  | cons l ls ih =>
    rw [List.flatMap_cons, List.flatMap_cons, List.append_assoc, List.append_assoc,
      unwrap_separator, h l List.mem_cons_self, ih fun x hx => h x (List.mem_cons_of_mem _ hx)]
    simp only [List.append_assoc]

theorem unwraps_choice {ls : List Layout} (h : ∀ l ∈ ls, l.Unwraps) (brackets : Bool) :
    (Layout.choice ls brackets).Unwraps := by
  intro rest
  rw [markers, flat, markersOf_eq_map, flatAll_eq_map]
  cases ls with
  | nil => cases brackets <;> rfl
  | cons l more =>
    have hmore := unwrap_alternatives (fun x hx => h x (List.mem_cons_of_mem _ hx)) brackets
    rw [List.map_cons, List.map_cons, writeChoice_cons, intercalate_cons, List.flatMap_map,
      List.flatMap_map]
    cases brackets with
    | true =>
      simp only [if_true, List.append_assoc, List.cons_append, List.nil_append]
      rw [unwrap, h l List.mem_cons_self, hmore, unwrap]
      · simp
      all_goals simp
    | false =>
      simp only [Bool.false_eq_true, if_false, List.append_assoc, List.nil_append]
      rw [h l List.mem_cons_self, hmore]

theorem unwraps_beside {ls : List Layout} (h : ∀ l ∈ ls, l.Unwraps) :
    (Layout.beside ls).Unwraps := by
  intro rest
  rw [markers, flat, markersOf_eq_map, flatAll_eq_map]
  induction ls with
  | nil => rfl
  | cons l ls ih =>
    rw [List.map_cons, List.map_cons, List.flatten_cons, List.flatten_cons, List.append_assoc,
      List.append_assoc, h l List.mem_cons_self, ih fun x hx => h x (List.mem_cons_of_mem _ hx)]

mutual

/-- **All breaks of a layout can be undone.** -/
theorem unwrap_markers : ∀ l : Layout, l.Unwraps
  | .nothing => fun _ => rfl
  | .symbol _ => fun _ => rfl
  | .string _ => fun _ => rfl
  | .identifier _ => fun _ => rfl
  | .beside parts => unwraps_beside (unwrap_markers_all parts)
  | .sequence items limit => unwraps_sequence (unwrap_markers_all items) limit
  | .choice alternatives brackets => unwraps_choice (unwrap_markers_all alternatives) brackets

theorem unwrap_markers_all : ∀ (ls : List Layout), ∀ l ∈ ls, l.Unwraps
  | [] => fun _ h => absurd h List.not_mem_nil
  | x :: xs => List.forall_mem_cons.mpr ⟨unwrap_markers x, unwrap_markers_all xs⟩

end

end Layout

/-! ## 2. A reader of marks -/

namespace Form

/-- A form with `x` in the place that an operator left open. -/
def fill (x : Form) : Form → Form
  | .nothing => x
  | .negated operand => .negated (fill x operand)
  | .range first .nothing => .range first x
  | f => f

/-- A form with a text behind it: a literal, the content of a charset, or the dots of a range. -/
def withText (text : String) : Form → Form
  | .charset _ => .charset text
  | .negated operand => .negated (withText text operand)
  | .reference name => .range (.reference name) .nothing
  | .literal first => .range (.literal first) .nothing
  | f => fill (.literal text) f

/-- A form with a suffix behind it. A second suffix makes the first one lazy. -/
def withSign (times : Repetition) : Form → Form
  | .repeated operand first _ => .repeated operand first false
  | f => .repeated f times true

/-- A form with one more mark behind it. -/
def extend (f : Form) : Marker → Form
  | .identifier name => fill (.reference name) f
  | .string text => withText text f
  | .symbol "." => fill .wildcard f
  | .symbol "~" => fill (.negated .nothing) f
  | .symbol "[" => fill (.charset "") f
  | .symbol "?" => withSign .optional f
  | .symbol "+" => withSign .oneOrMore f
  | .symbol "*" => withSign .zeroOrMore f
  | _ => f

end Form

/-- What has been read of a group. -/
structure Frame where
  alternatives : List Form := []
  items : List Form := []
  current : Form := .nothing
  deriving Inhabited

/-- The alternatives of a group that ends here. -/
def Frame.close (f : Frame) : List Form :=
  f.alternatives ++ [.sequence (Form.trim (f.items ++ [f.current]))]

/-- A reader of marks on the way. -/
structure ReadState where
  /-- The groups around the one that is read, the innermost first. -/
  outer : List Frame := []
  frame : Frame := {}
  /-- Directly behind a bar. The blank that follows belongs to it. -/
  barred : Bool := false
  deriving Inhabited

namespace ReadState

/-- Reads one mark. -/
def step (s : ReadState) : Marker → ReadState
  | .whitespace =>
    if s.barred then { s with barred := false }
    else { s with frame :=
      { s.frame with items := s.frame.items ++ [s.frame.current], current := .nothing } }
  | .symbol "|" =>
    -- the blank before the bar has ended the last item
    { s with
      frame := { alternatives := s.frame.alternatives ++ [.sequence (Form.trim s.frame.items)] }
      barred := true }
  | .symbol "(" => { outer := s.frame :: s.outer }
  | .symbol ")" =>
    match s.outer with
    | [] => s
    | f :: fs =>
      { outer := fs, frame := { f with current := Form.fill (.group s.frame.close) f.current } }
  | mark => { s with frame := { s.frame with current := s.frame.current.extend mark } }

/-- Reads some marks. -/
def run (s : ReadState) (marks : List Marker) : ReadState := marks.foldl step s

theorem run_append (s : ReadState) (marks more : List Marker) :
    s.run (marks ++ more) = (s.run marks).run more := List.foldl_append

theorem run_cons (s : ReadState) (mark : Marker) (marks : List Marker) :
    s.run (mark :: marks) = (s.step mark).run marks := rfl

end ReadState

/-- Reads the marks of a body. -/
def read (marks : List Marker) : Form :=
  .group (ReadState.run {} (unwrap marks)).frame.close

/-! ## 3. Reading forms -/

namespace Form

variable (limit : Int)

/-- Where an operand is missing, the marks of a form are read as this form. -/
def Fills (f : Form) : Prop :=
  ∀ outer frame, (frame.current = .nothing ∨ frame.current = .negated .nothing) →
    ReadState.run ⟨outer, frame, false⟩ (f.layout limit).flat =
      ⟨outer, { frame with current := fill f frame.current }, false⟩

/-- Where an item begins, the marks of a form are read as this form. -/
def Rereads (f : Form) : Prop :=
  ∀ outer alternatives items,
    ReadState.run ⟨outer, ⟨alternatives, items, .nothing⟩, false⟩ (f.layout limit).flat =
      ⟨outer, ⟨alternatives, items, f⟩, false⟩

/-- Where an alternative begins, the marks of a form are read as this form. -/
def IsReadAlternative (f : Form) : Prop :=
  ∀ outer alternatives, ∃ items current,
    ReadState.run ⟨outer, ⟨alternatives, [], .nothing⟩, false⟩ (f.layout limit).flat =
        ⟨outer, ⟨alternatives, items, current⟩, false⟩ ∧
      f = .sequence (trim (items ++ [current]))

variable {limit}

theorem Fills.rereads {f : Form} (h : f.Fills limit) : f.Rereads limit := fun _ _ _ =>
  h _ _ (.inl rfl)

theorem fills_reference (name : String) : (Form.reference name).Fills limit := by
  rintro outer ⟨as, is, c⟩ (h | h) <;> cases h <;> rfl

theorem fills_literal (text : String) : (Form.literal text).Fills limit := by
  rintro outer ⟨as, is, c⟩ (h | h) <;> cases h <;> rfl

theorem fills_charset (text : String) : (Form.charset text).Fills limit := by
  rintro outer ⟨as, is, c⟩ (h | h) <;> cases h <;> rfl

theorem rereads_wildcard : Form.wildcard.Rereads limit := fun _ _ _ => rfl

theorem rereads_nothing : Form.nothing.Rereads limit := fun _ _ _ => rfl

/-- A form that is shown as one mark, as the ends of a range are. -/
def IsEnd (f : Form) : Prop := (∃ name, f = .reference name) ∨ ∃ text, f = .literal text

theorem fills_range {first last : Form} (hf : first.IsEnd) (hl : last.IsEnd) :
    (Form.range first last).Fills limit := by
  rcases hf with ⟨a, rfl⟩ | ⟨a, rfl⟩ <;> rcases hl with ⟨b, rfl⟩ | ⟨b, rfl⟩ <;>
    rintro outer ⟨as, is, c⟩ (h | h) <;> cases h <;> rfl

theorem Fills.negated {f : Form} (h : f.Fills limit) : (Form.negated f).Rereads limit := by
  intro outer as is
  have hflat : ((Form.negated f).layout limit).flat = .symbol "~" :: (f.layout limit).flat := by
    simp [layout, Layout.negated, Layout.flat, Layout.flatAll]
  rw [hflat, ReadState.run_cons]
  exact h outer ⟨as, is, .negated .nothing⟩ (.inr rfl)

/-- Whether a form carries no suffix. -/
def Unsigned (f : Form) : Prop := ∀ operand times greedy, f ≠ .repeated operand times greedy

theorem withSign_of_unsigned {f : Form} (h : f.Unsigned) (times : Repetition) :
    withSign times f = .repeated f times true := by
  cases f with
  | repeated operand t g => exact absurd rfl (h operand t g)
  | _ => rfl

theorem step_sign (outer : List Frame) (frame : Frame) (times : Repetition) :
    ReadState.step ⟨outer, frame, false⟩ (.symbol times.sign) =
      ⟨outer, { frame with current := withSign times frame.current }, false⟩ := by
  cases times <;> rfl

theorem Rereads.repeated {f : Form} (h : f.Rereads limit) (hu : f.Unsigned) (times : Repetition)
    (greedy : Bool) : (Form.repeated f times greedy).Rereads limit := by
  intro outer as is
  have hflat : ((Form.repeated f times greedy).layout limit).flat =
      (f.layout limit).flat ++ .symbol times.sign :: (if greedy then [] else [.symbol "?"]) := by
    cases greedy <;>
      simp [layout, Layout.repeated, Layout.lazyMark, Layout.flat, Layout.flatAll]
  rw [hflat, ReadState.run_append, h, ReadState.run_cons, step_sign, withSign_of_unsigned hu]
  cases greedy <;> rfl

/-! ## 4. Reading groups -/

theorem flat_sequence (fs : List Form) : ((Form.sequence fs).layout limit).flat =
    List.intercalate [.whitespace] (fs.map fun f => (f.layout limit).flat) := by
  have hall : Layout.isItem ∘ layout limit = fun _ => true :=
    funext fun f => f.isItem_layout limit
  rw [layout, Layout.flat, Layout.flatItems_eq_map, layoutAll_eq_map, List.filter_map, hall,
    List.filter_eq_self.mpr fun _ _ => rfl, List.map_map]
  rfl

theorem flat_group (fs : List Form) : ((Form.group fs).layout limit).flat =
    .symbol "(" :: (List.intercalate bar (fs.map fun f => (f.layout limit).flat) ++
      [.symbol ")"]) := by
  rw [layout, Layout.flat, Layout.flatAll_eq_map, layoutAll_eq_map, List.map_map]
  rfl

theorem run_items {f : Form} {fs : List Form} (h : ∀ x ∈ f :: fs, x.Rereads limit)
    (outer : List Frame) (alternatives items : List Form) :
    ∃ items' current,
      ReadState.run ⟨outer, ⟨alternatives, items, .nothing⟩, false⟩
          (List.intercalate [.whitespace] ((f :: fs).map fun f => (f.layout limit).flat)) =
        ⟨outer, ⟨alternatives, items', current⟩, false⟩ ∧
      items' ++ [current] = items ++ f :: fs := by
  induction fs generalizing f items with
  | nil =>
    refine ⟨items, f, ?_, rfl⟩
    rw [List.map_singleton, List.intercalate_singleton]
    exact h f List.mem_cons_self outer alternatives items
  | cons g gs ih =>
    obtain ⟨items', current, hrun, heq⟩ :=
      ih (fun x hx => h x (List.mem_cons_of_mem _ hx)) (items ++ [f])
    refine ⟨items', current, ?_, by rw [heq, List.append_assoc]; rfl⟩
    rw [List.map_cons, List.map_cons, List.intercalate_cons_cons, List.append_assoc,
      ReadState.run_append, h f List.mem_cons_self outer alternatives items]
    exact hrun

theorem trim_trim (items : List Form) : trim (trim items) = trim items := by
  by_cases h : items = [.nothing]
  · rw [h]
    rfl
  · have htrim : trim items = items := by
      unfold trim
      split
      · exact absurd rfl h
      · rfl
    rw [htrim, htrim]

theorem mem_of_mem_trim {f : Form} {items : List Form} (h : f ∈ trim items) : f ∈ items := by
  unfold trim at h
  split at h
  · cases h
  · exact h

theorem isReadAlternative_trim {fs : List Form} (h : ∀ f ∈ fs, f.Rereads limit) :
    (Form.sequence (trim fs)).IsReadAlternative limit := by
  intro outer as
  have ht : ∀ f ∈ trim fs, f.Rereads limit := fun f hf => h f (mem_of_mem_trim hf)
  have htrim := trim_trim fs
  rw [flat_sequence]
  cases hfs : trim fs with
  | nil => exact ⟨[], .nothing, rfl, rfl⟩
  | cons f more =>
    rw [hfs] at ht htrim
    obtain ⟨items, current, hrun, heq⟩ := run_items ht outer as []
    refine ⟨items, current, hrun, ?_⟩
    rw [heq, List.nil_append, htrim]

theorem run_alternatives {f : Form} {fs : List Form}
    (h : ∀ x ∈ f :: fs, x.IsReadAlternative limit) (outer : List Frame)
    (alternatives : List Form) :
    ∃ frame,
      ReadState.run ⟨outer, ⟨alternatives, [], .nothing⟩, false⟩
          (List.intercalate bar ((f :: fs).map fun f => (f.layout limit).flat)) =
        ⟨outer, frame, false⟩ ∧ frame.close = alternatives ++ f :: fs := by
  induction fs generalizing f alternatives with
  | nil =>
    obtain ⟨items, current, hrun, heq⟩ := h f List.mem_cons_self outer alternatives
    refine ⟨⟨alternatives, items, current⟩, ?_, congrArg (alternatives ++ [·]) heq.symm⟩
    rw [List.map_singleton, List.intercalate_singleton]
    exact hrun
  | cons g gs ih =>
    obtain ⟨items, current, hrun, heq⟩ := h f List.mem_cons_self outer alternatives
    obtain ⟨frame, hframe, hclose⟩ :=
      ih (fun x hx => h x (List.mem_cons_of_mem _ hx)) (alternatives ++ [f])
    refine ⟨frame, ?_, by rw [hclose, List.append_assoc]; rfl⟩
    have hbar : ReadState.run ⟨outer, ⟨alternatives, items, current⟩, false⟩ bar =
        ⟨outer, ⟨alternatives ++ [f], [], .nothing⟩, false⟩ := by
      rw [heq]
      rfl
    rw [List.map_cons, List.map_cons, List.intercalate_cons_cons, List.append_assoc,
      ReadState.run_append, hrun, ReadState.run_append, hbar]
    exact hframe

/-- The alternatives of a group are read from its beginning on. -/
theorem run_group {fs : List Form} (hne : fs ≠ []) (h : ∀ f ∈ fs, f.IsReadAlternative limit)
    (outer : List Frame) :
    ∃ frame,
      ReadState.run ⟨outer, {}, false⟩
          (List.intercalate bar (fs.map fun f => (f.layout limit).flat)) =
        ⟨outer, frame, false⟩ ∧ frame.close = fs := by
  cases fs with
  | nil => exact absurd rfl hne
  | cons f more => exact run_alternatives h outer []

theorem fills_group {fs : List Form} (hne : fs ≠ []) (h : ∀ f ∈ fs, f.IsReadAlternative limit) :
    (Form.group fs).Fills limit := by
  intro outer frame hc
  obtain ⟨inner, hrun, hclose⟩ := run_group hne h (frame :: outer)
  have hopen : ReadState.step ⟨outer, frame, false⟩ (.symbol "(") =
      ⟨frame :: outer, {}, false⟩ := rfl
  rw [flat_group, ReadState.run_cons, ReadState.run_append, hopen, hrun]
  show ReadState.mk outer { frame with current := fill (.group inner.close) _ } false = _
  rw [hclose]

/-- A form that can stand in a set. -/
def IsMember (f : Form) : Prop :=
  f.IsEnd ∨ (∃ text, f = .charset text) ∨
    ∃ first last, first.IsEnd ∧ last.IsEnd ∧ f = .range first last

theorem IsMember.fills {f : Form} (h : f.IsMember) : f.Fills limit := by
  rcases h with (⟨name, rfl⟩ | ⟨text, rfl⟩) | ⟨text, rfl⟩ | ⟨first, last, hf, hl, rfl⟩
  · exact fills_reference name
  · exact fills_literal text
  · exact fills_charset text
  · exact fills_range hf hl

theorem IsMember.unsigned {f : Form} (h : f.IsMember) : f.Unsigned := by
  rcases h with (⟨name, rfl⟩ | ⟨text, rfl⟩) | ⟨text, rfl⟩ | ⟨first, last, hf, hl, rfl⟩ <;>
    exact fun _ _ _ => Form.noConfusion

theorem IsMember.trim {f : Form} (h : f.IsMember) : trim [f] = [f] := by
  rcases h with (⟨name, rfl⟩ | ⟨text, rfl⟩) | ⟨text, rfl⟩ | ⟨first, last, hf, hl, rfl⟩ <;> rfl

end Form

/-! ## 5. Reading written bodies -/

section Written

variable (limit : Int) (index : LiteralIndex) (mode : Mode)

theorem Expr.isEnd_form_literal (text : String) :
    ((Expr.literal text).form index mode).IsEnd := by
  rw [form]
  cases index.shown? mode text with
  | none => exact .inr ⟨_, rfl⟩
  | some token => exact .inl ⟨_, rfl⟩

theorem Expr.Written.isMember_form {e : Expr} (h : Expr.Written .member e) :
    (e.form index mode).IsMember := by
  cases h with
  | reference name => exact .inl (.inl ⟨name, rfl⟩)
  | literal => exact .inl (Expr.isEnd_form_literal index mode _)
  | charset text => exact .inr (.inl ⟨text, rfl⟩)
  | range =>
    exact .inr (.inr ⟨_, _, Expr.isEnd_form_literal index mode _,
      Expr.isEnd_form_literal index mode _, rfl⟩)

/-- How the normal form of a written expression is read, by the part it plays. -/
def Expr.IsReadAs : Part → Expr → Prop
  | .member, e => (e.form index mode).IsMember
  | .operand, e => (e.form index mode).Rereads limit ∧ (e.form index mode).Unsigned
  | .element, e => (e.form index mode).Rereads limit ∧
      (e.isOperator = false → (e.form index mode).Unsigned)
  | .alternative, e => ∃ items, e = .sequence items ∧ ∀ x ∈ items,
      (x.form index mode).Rereads limit ∧ (x.isOperator = false → (x.form index mode).Unsigned)
  | .block, e => ((e.form index mode).Rereads limit ∧ (e.form index mode).Unsigned) ∧
      ∃ alternatives, e = .choice alternatives ∧ alternatives ≠ [] ∧
        ∀ a ∈ alternatives, (a.form index mode).alternative.IsReadAlternative limit

variable {limit index mode}

theorem Expr.isReadAlternative_sequence {items : List Expr}
    (h : ∀ x ∈ items, (x.form index mode).Rereads limit) :
    ((Expr.sequence items).form index mode).alternative.IsReadAlternative limit := by
  refine Form.isReadAlternative_trim fun f hf => ?_
  rw [formItems_eq] at hf
  obtain ⟨x, hx, rfl⟩ := List.mem_map.mp hf
  exact h x (List.mem_filter.mp hx).1

/-- A group is read as its normal form if its alternatives are. -/
theorem Expr.isReadAs_block {alternatives : List Expr} (hne : alternatives ≠ [])
    (h : ∀ a ∈ alternatives, a.IsReadAs limit index mode .alternative) :
    (Expr.choice alternatives).IsReadAs limit index mode .block := by
  have halt : ∀ a ∈ alternatives, (a.form index mode).alternative.IsReadAlternative limit := by
    intro a ha
    obtain ⟨items, rfl, hitems⟩ := h a ha
    exact isReadAlternative_sequence fun x hx => (hitems x hx).1
  refine ⟨?_, alternatives, rfl, hne, halt⟩
  rw [form, formAll_eq_map, List.map_map]
  cases hk : keepsBrackets alternatives with
  | true =>
    rw [if_pos rfl]
    refine ⟨(Form.fills_group (by simpa using hne) fun f hf => ?_).rereads,
      fun _ _ _ => Form.noConfusion⟩
    obtain ⟨a, ha, rfl⟩ := List.mem_map.mp hf
    exact halt a ha
  | false =>
    rw [if_neg (by simp)]
    obtain ⟨only, rfl⟩ := eq_single_of_unbracketed hne hk
    obtain ⟨items, rfl, hitems⟩ := h only List.mem_cons_self
    rcases items_of_unbracketed hk with rfl | ⟨x, rfl, hplain⟩
    · exact ⟨Form.rereads_nothing, fun _ _ _ => Form.noConfusion⟩
    · have hx := hitems x List.mem_cons_self
      show (Form.bare [.sequence (Form.trim (formItems index mode [x]))]).Rereads limit ∧
        (Form.bare [.sequence (Form.trim (formItems index mode [x]))]).Unsigned
      rw [formItems, formItems]
      split
      · exact ⟨Form.rereads_nothing, fun _ _ _ => Form.noConfusion⟩
      · rw [Form.bare_trim]
        exact ⟨hx.1, hx.2 hplain⟩

/-- A set is read as its normal form. -/
theorem Expr.fills_tokenSet {members : List Expr} (hne : members ≠ [])
    (h : ∀ m ∈ members, Expr.Written .member m) :
    ((Expr.tokenSet members).form index mode).Fills limit := by
  rw [form, formAll_eq_map, List.map_map]
  cases hk : keepsBrackets members with
  | true =>
    rw [if_pos rfl]
    refine Form.fills_group (by simpa using hne) fun f hf => ?_
    obtain ⟨m, hm, rfl⟩ := List.mem_map.mp hf
    have hmember : (m.form index mode).IsMember := (h m hm).isMember_form index mode
    rw [Function.comp_apply, (h m hm).alternative_form mode index, ← hmember.trim]
    refine Form.isReadAlternative_trim fun f hf => ?_
    rw [List.mem_singleton.mp hf]
    exact hmember.fills.rereads
  | false =>
    rw [if_neg (by simp)]
    obtain ⟨only, rfl⟩ := eq_single_of_unbracketed hne hk
    have honly : Expr.Written .member only := h only List.mem_cons_self
    rw [List.map_singleton, Function.comp_apply, honly.alternative_form mode index]
    exact (honly.isMember_form index mode).fills

/-- **Every written expression is read as its normal form.** -/
theorem Expr.Written.isReadAs {part : Part} {e : Expr} (h : Expr.Written part e) :
    e.IsReadAs limit index mode part := by
  induction h with
  | block hne _ ih => exact Expr.isReadAs_block hne ih
  | alternative _ ih => exact ⟨_, rfl, ih⟩
  | predicate | action => exact ⟨Form.rereads_nothing, fun _ _ _ _ => Form.noConfusion⟩
  | plain _ ih => exact ⟨ih.1, fun _ => ih.2⟩
  | repeated times greedy _ ih =>
    refine ⟨ih.1.repeated ih.2 times greedy, fun h => ?_⟩
    cases h
  | group _ ih => exact ih.1
  | wildcard => exact ⟨Form.rereads_wildcard, fun _ _ _ => Form.noConfusion⟩
  | single _ ih => exact ⟨ih.fills.rereads, ih.unsigned⟩
  | negated _ ih => exact ⟨ih.fills.negated, fun _ _ _ => Form.noConfusion⟩
  | negatedSet hne h _ =>
    exact ⟨(Expr.fills_tokenSet hne h).negated, fun _ _ _ => Form.noConfusion⟩
  | reference name => exact (Expr.Written.reference name).isMember_form index mode
  | literal h => exact (Expr.Written.literal h).isMember_form index mode
  | charset text => exact (Expr.Written.charset text).isMember_form index mode
  | range hf hl => exact (Expr.Written.range hf hl).isMember_form index mode

end Written

/-- The marks of a body on one line. -/
theorem unwrap_body {e : Expr} (h : Expr.Written .block e) (v : View) (mode : Mode)
    {alternatives : List Form} (hform : e.bodyForm v.literals mode = .group alternatives) :
    unwrap (e.layout v mode 0).markers =
      List.intercalate bar (alternatives.map fun f => (f.layout v.limit).flat) := by
  have hunwrap := Layout.unwrap_markers ((Form.group alternatives).bodyLayout v.limit) []
  rw [List.append_nil] at hunwrap
  rw [h.body_markers, hform, hunwrap, Form.bodyLayout, Layout.flat, Layout.flatAll_eq_map,
    Form.layoutAll_eq_map, List.map_map]
  simp only [Bool.false_eq_true, if_false, List.nil_append, List.append_nil, unwrap]
  rfl

/-- **The marks of a written body read back as its normal form**, whatever the width of lines. -/
theorem read_markers {e : Expr} (h : Expr.Written .block e) (v : View) (mode : Mode) :
    read (e.layout v mode 0).markers = e.bodyForm v.literals mode := by
  obtain ⟨-, alternatives, rfl, hne, halt⟩ : e.IsReadAs v.limit v.literals mode .block := h.isReadAs
  have hform : (Expr.choice alternatives).bodyForm v.literals mode =
      .group (alternatives.map fun a => (a.form v.literals mode).alternative) := by
    rw [Expr.bodyForm, Expr.formAll_eq_map, List.map_map]
    rfl
  have hread : ∀ f ∈ alternatives.map fun a => (a.form v.literals mode).alternative,
      f.IsReadAlternative v.limit := by
    intro f hf
    obtain ⟨a, ha, rfl⟩ := List.mem_map.mp hf
    exact halt a ha
  obtain ⟨frame, hrun, hclose⟩ := Form.run_group (by simpa using hne) hread []
  have hstart : ({} : ReadState) = ⟨[], {}, false⟩ := rfl
  unfold read
  rw [unwrap_body h v mode hform, hform, hstart, hrun, hclose]

/-- **The marks of a body determine what it says.** Two written bodies are walked with the same
    literals and in the same mode, each with a width of lines of its own. If they are written with
    the same marks, they have the same normal form; and if the width is the same, too, bodies with
    the same normal form are written with the same marks. -/
theorem markers_determine_body {H : Type} (r₁ r₂ : Rule) (h₁ : r₁.body.Written .block)
    (h₂ : r₂.body.Written .block) (literals : LiteralIndex) (mode : Mode) (limit₁ limit₂ : Int)
    (m₁ m₂ : UsageMap H) :
    ∃ l₁ l₂, (runFrom (r₁.walkBody ⟨literals, limit₁⟩ mode) m₁).1 = .ok l₁ ∧
      (runFrom (r₂.walkBody ⟨literals, limit₂⟩ mode) m₂).1 = .ok l₂ ∧
      (l₁.markers = l₂.markers → r₁.body.bodyForm literals mode = r₂.body.bodyForm literals mode) ∧
      (limit₁ = limit₂ →
        (l₁.markers = l₂.markers ↔
          r₁.body.bodyForm literals mode = r₂.body.bodyForm literals mode)) := by
  have hread₁ := read_markers h₁ ⟨literals, limit₁⟩ mode
  have hread₂ := read_markers h₂ ⟨literals, limit₂⟩ mode
  have hdetermine : (r₁.body.layout ⟨literals, limit₁⟩ mode 0).markers =
      (r₂.body.layout ⟨literals, limit₂⟩ mode 0).markers →
      r₁.body.bodyForm literals mode = r₂.body.bodyForm literals mode := by
    intro h
    rw [← hread₁, ← hread₂, h]
  refine ⟨r₁.body.layout ⟨literals, limit₁⟩ mode 0, r₂.body.layout ⟨literals, limit₂⟩ mode 0,
    ?_, ?_, hdetermine, ?_⟩
  · rw [Rule.walkBody_run, h₁.isPlain, if_pos rfl]
  · rw [Rule.walkBody_run, h₂.isPlain, if_pos rfl]
  · rintro rfl
    refine ⟨hdetermine, fun hform => ?_⟩
    rw [h₁.body_markers, h₂.body_markers, hform]

/-- A reference and an action are written like the reference in a group of its own. -/
theorem markers_determine_body_group :
    ∃ l₁ l₂ : Layout,
      (runFrom (Rule.walkBody
        { name := "r", body := .choice [.sequence [.reference "a", .action "{}"]] }
        ⟨[], 80⟩ .parser) (.empty : UsageMap Nat)).1 = .ok l₁ ∧
      (runFrom (Rule.walkBody
        { name := "s", body := .choice [.sequence [.choice [.sequence [.reference "a"]]]] }
        ⟨[], 80⟩ .parser) (.empty : UsageMap Nat)).1 = .ok l₂ ∧
      l₁.markers = l₂.markers := by
  have hr : Expr.Written .block (.choice [.sequence [.reference "a", .action "{}"]]) := by
    refine .block (List.cons_ne_nil _ _) (List.forall_mem_singleton.mpr (.alternative ?_))
    exact List.forall_mem_cons.mpr ⟨.plain (.single (.reference "a")),
      List.forall_mem_singleton.mpr (.action "{}")⟩
  have hs : Expr.Written .block (.choice [.sequence [.choice [.sequence [.reference "a"]]]]) := by
    refine .block (List.cons_ne_nil _ _) (List.forall_mem_singleton.mpr (.alternative ?_))
    refine List.forall_mem_singleton.mpr (.plain (.group (.block (List.cons_ne_nil _ _) ?_)))
    refine List.forall_mem_singleton.mpr (.alternative ?_)
    exact List.forall_mem_singleton.mpr (.plain (.single (.reference "a")))
  obtain ⟨l₁, l₂, hl₁, hl₂, -, hiff⟩ := markers_determine_body
    { name := "r", body := .choice [.sequence [.reference "a", .action "{}"]] }
    { name := "s", body := .choice [.sequence [.choice [.sequence [.reference "a"]]]] }
    hr hs [] .parser 80 80 (.empty : UsageMap Nat) .empty
  exact ⟨l₁, l₂, hl₁, hl₂, (hiff rfl).mpr rfl⟩

end GrammarManual
