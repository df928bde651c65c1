import GrammarManual.Command.Invocation

/-!
# Proofs/CommandLines: command lines that differ in one option

* `Options.without`, `Options.behindName` -- a command line without the uses of an option, and one
  that is changed behind the name of the command;
* `Options.read_without`, `Options.read_behindName` -- what is read of them;
* `withoutOutput` -- a command line without `--output`;
* **`Request.ofArguments_withoutOutput`** -- it asks for the same manual, on the standard output.
-/

namespace GrammarManual.Command

/-! ## 1. Values -/

namespace Given

variable {α : Type}

/-- What was read, with one option more in front. -/
def add (key : α) (value : String) (g : Given α) : Given α :=
  { g with values := (key, value) :: g.values }

variable [DecidableEq α]

/-- What was read, without the values of one option. -/
def without (key : α) (g : Given α) : Given α :=
  { g with values := g.values.filter fun e => decide (e.1 ≠ key) }

theorem without_add_self (key : α) (value : String) (g : Given α) :
    (g.add key value).without key = g.without key := by
  unfold without add
  rw [List.filter_cons_of_neg (by simp)]

theorem without_add_of_ne {key other : α} (h : other ≠ key) (value : String) (g : Given α) :
    (g.add other value).without key = (g.without key).add other value := by
  unfold without add
  rw [List.filter_cons_of_pos (by simpa using h)]

theorem last?_without_self (key : α) (g : Given α) : (g.without key).last? key = none := by
  have hnone : (g.without key).all key = [] := by
    unfold all without
    rw [List.filter_filter, List.map_eq_nil_iff, List.filter_eq_nil_iff]
    intro e _
    by_cases h : e.1 = key <;> simp [h]
  rw [last?, hnone, List.getLast?_nil]

theorem all_without_of_ne {key other : α} (h : other ≠ key) (g : Given α) :
    (g.without key).all other = g.all other := by
  unfold all without
  rw [List.filter_filter]
  congr 2
  funext e
  by_cases he : e.1 = other
  · rw [he]
    simp [h]
  · simp [he]

theorem last?_without_of_ne {key other : α} (h : other ≠ key) (g : Given α) :
    (g.without key).last? other = g.last? other := by
  rw [last?, all_without_of_ne h, last?]

end Given

/-! ## 2. Reading -/

namespace Options

variable {α : Type} (o : Options α) {mixed : Bool} {argument : String} {rest : List String}

theorem read_given {key : α} {value : String} (h : o.use argument = .given key value) :
    o.read mixed (argument :: rest) = (o.read mixed rest).map (Given.add key value) := by
  rw [read, h]
  rfl

theorem read_pending {key : α} {value : String} (h : o.use argument = .pending key) :
    o.read mixed (argument :: value :: rest) = (o.read mixed rest).map (Given.add key value) := by
  rw [read, h]
  rfl

theorem read_pending_nil {key : α} (h : o.use argument = .pending key) :
    o.read mixed [argument] = none := by
  rw [read, h]

theorem read_help (h : o.use argument = .help) : o.read mixed (argument :: rest) =
    (o.read mixed rest).map fun g => { g with help := true } := by
  rw [read, h]

theorem read_finish (h : o.use argument = .finish) :
    o.read mixed (argument :: rest) = some { operands := rest } := by
  rw [read, h]

theorem read_operand (h : o.use argument = .operand) : o.read true (argument :: rest) =
    (o.read true rest).map fun g => { g with operands := argument :: g.operands } := by
  rw [read, h]
  rfl

theorem read_name (h : o.use argument = .operand) :
    o.read false (argument :: rest) = some { operands := argument :: rest } := by
  rw [read, h]
  rfl

theorem read_unknown (h : o.use argument = .unknown) : o.read mixed (argument :: rest) = none := by
  rw [read, h]

/-- A command line without the uses of one option. -/
def without [DecidableEq α] (key : α) : List String → List String
  | [] => []
  | argument :: rest =>
    match o.use argument with
    | .given other _ => if other = key then without key rest else argument :: without key rest
    | .pending other =>
      match rest with
      | [] => [argument]
      | value :: rest' =>
        if other = key then without key rest' else argument :: value :: without key rest'
    | .finish => argument :: rest
    | .help | .operand | .unknown => argument :: without key rest

/-- **Without an option its values are missing**, and nothing else of what is read. -/
theorem read_without [DecidableEq α] (key : α) (arguments : List String) :
    o.read true (o.without key arguments) = (o.read true arguments).map (Given.without key) := by
  fun_induction o.without key arguments with
  | case1 => rfl
  | case2 argument rest value huse ih =>
    rw [read_given o huse, ih, Option.map_map]
    exact congrArg (Option.map · _) (funext fun g => (Given.without_add_self key value g).symm)
  | case3 argument rest other value huse hne ih =>
    rw [read_given o huse, read_given o huse, ih, Option.map_map, Option.map_map]
    exact congrArg (Option.map · _)
      (funext fun g => (Given.without_add_of_ne hne value g).symm)
  | case4 argument other huse => rw [read_pending_nil o huse, Option.map_none]
  | case5 argument value rest huse ih =>
    rw [read_pending o huse, ih, Option.map_map]
    exact congrArg (Option.map · _) (funext fun g => (Given.without_add_self key value g).symm)
  | case6 argument other huse value rest hne ih =>
    rw [read_pending o huse, read_pending o huse, ih, Option.map_map, Option.map_map]
    exact congrArg (Option.map · _)
      (funext fun g => (Given.without_add_of_ne hne value g).symm)
  | case7 argument rest huse =>
    rw [read_finish o huse]
    rfl
  | case8 argument rest huse ih =>
    rw [read_help o huse, read_help o huse, ih, Option.map_map, Option.map_map]
    rfl
  | case9 argument rest huse ih =>
    rw [read_operand o huse, read_operand o huse, ih, Option.map_map, Option.map_map]
    rfl
  | case10 argument rest huse ih => rw [read_unknown o huse, read_unknown o huse, Option.map_none]

/-- Operands that are changed behind the first, the name of a command. -/
def changeTail (change : List String → List String) : List String → List String
  | [] => []
  | name :: rest => name :: change rest

/-- A command line that is changed behind the name of the command. -/
def behindName (change : List String → List String) : List String → List String
  | [] => []
  | argument :: rest =>
    match o.use argument with
    | .given _ _ | .help | .unknown => argument :: behindName change rest
    | .pending _ =>
      match rest with
      | [] => [argument]
      | value :: rest' => argument :: value :: behindName change rest'
    | .finish => argument :: changeTail change rest
    | .operand => argument :: change rest

/-- **What stands behind the name of the command** leaves the options before it alone. -/
theorem read_behindName (change : List String → List String) (arguments : List String) :
    o.read false (o.behindName change arguments) = (o.read false arguments).map fun g =>
      { g with operands := changeTail change g.operands } := by
  fun_induction o.behindName change arguments with
  | case1 => rfl
  | case2 argument rest key value huse ih =>
    rw [read_given o huse, read_given o huse, ih, Option.map_map, Option.map_map]
    rfl
  | case3 argument rest huse ih =>
    rw [read_help o huse, read_help o huse, ih, Option.map_map, Option.map_map]
    rfl
  | case4 argument rest huse ih => rw [read_unknown o huse, read_unknown o huse, Option.map_none]
  | case5 argument key huse => rw [read_pending_nil o huse, Option.map_none]
  | case6 argument key huse value rest ih =>
    rw [read_pending o huse, read_pending o huse, ih, Option.map_map, Option.map_map]
    rfl
  | case7 argument rest huse =>
    rw [read_finish o huse, read_finish o huse, Option.map_some]
  | case8 argument rest huse =>
    rw [read_name o huse, read_name o huse, Option.map_some]
    rfl

end Options

/-! ## 3. Requests -/

/-- A command line without its uses of `--output`. -/
def withoutOutput (arguments : List String) : List String :=
  runOptions.behindName (manualOptions.without .output) arguments

theorem Invocation.ofOptions?_without (run : Given RunOption) (manual : Given ManualOption) :
    ofOptions? run (manual.without .output) =
      (ofOptions? run manual).map fun i => { i with output := none } := by
  have hother {key : ManualOption} (h : key ≠ .output) :
      (manual.without .output).last? key = manual.last? key := Given.last?_without_of_ne h manual
  have hstart : (manual.without .output).all .startRule = manual.all .startRule :=
    Given.all_without_of_ne (by decide) manual
  unfold ofOptions? pathOf
  simp only [hother (by decide : ManualOption.parser ≠ .output),
    hother (by decide : ManualOption.lexer ≠ .output),
    hother (by decide : ManualOption.format ≠ .output),
    hother (by decide : ManualOption.docsFolder ≠ .output),
    hother (by decide : ManualOption.splitLength ≠ .output), hstart, Given.last?_without_self]
  cases checked (integerWithin? 0 (some 3)) (run.last? .verbose) with
  | none => rfl
  | some verbosity =>
    cases checked (integerWithin? 1 none) (manual.last? .splitLength) with
    | none => rfl
    | some limit =>
      cases manual.last? .parser with
      | none => rfl
      | some parser => rfl

theorem Request.ofManual_eq_render {run : Given RunOption} {arguments : List String}
    {i : Invocation} : ofManual run arguments = .render i ↔
      ∃ manual, manualOptions.read true arguments = some manual ∧ manual.help = false ∧
        manual.operands = [] ∧ Invocation.ofOptions? run manual = some i := by
  unfold ofManual
  constructor
  · intro h
    split at h
    · cases h
    · rename_i manual hread
      split at h
      · cases h
      · rename_i hhelp
        split at h
        · cases h
        · rename_i hoperands
          refine ⟨manual, hread, Bool.eq_false_iff.mpr hhelp, by simpa using hoperands, ?_⟩
          cases hoptions : Invocation.ofOptions? run manual with
          | none =>
            rw [hoptions] at h
            cases h
          | some i =>
            rw [hoptions] at h
            cases h
            rfl
  · rintro ⟨manual, hread, hhelp, hoperands, hoptions⟩
    rw [hread]
    dsimp only
    rw [hhelp, hoperands, hoptions]
    rfl

theorem Request.ofArguments_eq_render {arguments : List String} {i : Invocation} :
    ofArguments arguments = .render i ↔
      ∃ run rest, runOptions.read false arguments = some run ∧ run.help = false ∧
        run.operands = "render" :: rest ∧ ofManual run rest = .render i := by
  unfold ofArguments
  constructor
  · intro h
    split at h
    · cases h
    · rename_i run hread
      split at h
      · cases h
      · rename_i hhelp
        split at h
        · rename_i rest hoperands
          exact ⟨run, rest, hread, Bool.eq_false_iff.mpr hhelp, hoperands, h⟩
        · cases h
  · rintro ⟨run, rest, hread, hhelp, hoperands, h⟩
    rw [hread]
    dsimp only
    rw [hhelp, hoperands]
    exact h

/-- **A command line without `--output`** asks for the same manual, on the standard output. -/
theorem Request.ofArguments_withoutOutput {arguments : List String} {i : Invocation}
    (h : ofArguments arguments = .render i) :
    ofArguments (withoutOutput arguments) = .render { i with output := none } := by
  obtain ⟨run, rest, hrun, hhelp, hname, hrest⟩ := ofArguments_eq_render.mp h
  obtain ⟨manual, hmanual, hnohelp, hoperands, hoptions⟩ := ofManual_eq_render.mp hrest
  refine ofArguments_eq_render.mpr
    ⟨{ run with operands := "render" :: manualOptions.without .output rest }, _, ?_, hhelp, rfl,
      ofManual_eq_render.mpr ⟨manual.without .output, ?_, hnohelp, hoperands, ?_⟩⟩
  · rw [withoutOutput, Options.read_behindName, hrun, Option.map_some, hname]
    rfl
  · rw [Options.read_without, hmanual, Option.map_some]
  · have hsame : Invocation.ofOptions?
        { run with operands := "render" :: manualOptions.without .output rest } =
      Invocation.ofOptions? run := rfl
    rw [hsame, Invocation.ofOptions?_without, hoptions, Option.map_some]

end GrammarManual.Command
