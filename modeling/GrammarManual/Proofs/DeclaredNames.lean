import GrammarManual.Proofs.Declarations

/-!
# Proofs/DeclaredNames: what names the declarations of a text have

A text of declarations of literals, each with or without the keyword `fragment` and with gaps
wherever there may be one, is read declaration by declaration:

* **`read_declared`** -- the rules that are read, whatever the names; a name that is the word
  `fragment` and another name is read as a fragment with the other name (`Declared.asRead`);
* **`declared_as_written`** -- so the rules are those that are written if and only if no name
  without keyword is of that kind.
-/

namespace GrammarManual.G4

open Reader

variable {N : Nat}

/-! ## 1. Declarations as they are written -/

/-- A declaration of a literal, with the gaps before its parts. -/
structure Declared where
  lead : List Char
  /-- The gap behind the keyword `fragment`, if it is written. -/
  keyword : Option (List Char)
  name : AnyName
  beforeColon : List Char
  beforeLiteral : List Char
  literal : List Char
  beforeSemicolon : List Char

namespace Declared

/-- The text before the name. -/
def beforeName (d : Declared) : List Char :=
  d.lead ++ d.keyword.elim [] fun gap => "fragment".toList ++ gap

/-- The text behind the name. -/
def behindName (d : Declared) : List Char :=
  d.beforeColon ++ ':' :: d.beforeLiteral ++ '\'' :: d.literal ++ '\'' :: d.beforeSemicolon ++ [';']

def text (d : Declared) : List Char := d.beforeName ++ (d.name.first :: d.name.more) ++ d.behindName

/-- Every gap is one, and the name and the literal are spelled as such. -/
structure Legible (d : Declared) : Prop where
  lead : IsGap d.lead
  keyword : ∀ gap ∈ d.keyword, IsGap gap
  name : ∀ c ∈ d.name.more, Scan.isNameChar c = true
  beforeColon : IsGap d.beforeColon
  beforeLiteral : IsGap d.beforeLiteral
  literal : Enclosed '\'' Scan.isInline d.literal
  beforeSemicolon : IsGap d.beforeSemicolon

/-- A declaration as it may be written: the keyword is a word of its own. -/
structure WellFormed (d : Declared) : Prop extends d.Legible where
  separate : d.keyword ≠ some []

/-- The rule that is declared behind some text. -/
def rule (d : Declared) (before : List Char) : Rule where
  name := d.name.string
  body := .choice [.sequence [.literal (String.ofList ('\'' :: (d.literal ++ ['\''])))]]
  line := Text.newlines (before ++ d.beforeName) + 1
  fragment := d.keyword.isSome

end Declared

/-- The text of declarations. -/
def textOf (ds : List Declared) : List Char := ds.flatMap Declared.text

/-- The rules that are declared behind some text. -/
def rulesOf : List Char → List Declared → List Rule
  | _, [] => []
  | before, d :: ds => d.rule before :: rulesOf (before ++ d.text) ds

/-! ## 2. The keyword in a name -/

/-- The name behind the word `fragment` in a name. -/
def Name.behindFragment? (n : AnyName) : Option AnyName :=
  match Scan.exactly "fragment".toList (n.first :: n.more) with
  | some (_, c :: more) => if h : c.isAlpha = true then some ⟨c, more, h⟩ else none
  | _ => none

theorem Name.behindFragment?_eq_some {n m : AnyName} :
    n.behindFragment? = some m ↔
      n.first :: n.more = "fragment".toList ++ (m.first :: m.more) := by
  constructor
  · intro h
    unfold Name.behindFragment? at h
    split at h
    · rename_i c more hscan
      obtain ⟨-, hsplit⟩ := Scan.eq_of_exactly hscan
      split at h
      · cases h
        exact hsplit
      · cases h
    · cases h
  · intro h
    unfold Name.behindFragment?
    rw [h, Scan.exactly_append]
    dsimp only
    rw [dif_pos m.isKind]

theorem Name.merges_iff {n : AnyName} : n.Merges ↔ ∃ m, n.behindFragment? = some m :=
  exists_congr fun _ => Name.behindFragment?_eq_some.symm

namespace Declared

/-- A declaration whose name is read as the keyword and another name. -/
def Merges (d : Declared) : Prop := d.keyword = none ∧ d.name.Merges

/-- A declaration as it is read. -/
def asRead (d : Declared) : Declared :=
  match d.keyword, d.name.behindFragment? with
  | none, some m => { d with keyword := some [], name := m }
  | _, _ => d

theorem asRead_of_not_merges {d : Declared} (h : ¬ d.Merges) : d.asRead = d := by
  unfold asRead
  split
  · rename_i m hkeyword hname
    exact absurd ⟨hkeyword, Name.merges_iff.mpr ⟨m, hname⟩⟩ h
  · rfl

theorem asRead_of_merges {d : Declared} (h : d.Merges) :
    ∃ m : AnyName, d.name.first :: d.name.more = "fragment".toList ++ (m.first :: m.more) ∧
      d.asRead = { d with keyword := some [], name := m } := by
  obtain ⟨hkeyword, hname⟩ := h
  obtain ⟨m, hm⟩ := Name.merges_iff.mp hname
  refine ⟨m, Name.behindFragment?_eq_some.mp hm, ?_⟩
  unfold asRead
  rw [hkeyword, hm]

/-- What is read is the same text. -/
theorem text_asRead (d : Declared) : d.asRead.text = d.text := by
  by_cases h : d.Merges
  · obtain ⟨m, hm, hread⟩ := asRead_of_merges h
    rw [hread, text, text, beforeName, beforeName, h.1, hm]
    simp [behindName]
  · rw [asRead_of_not_merges h]

theorem not_merges_asRead (d : Declared) : ¬ d.asRead.Merges := by
  by_cases h : d.Merges
  · obtain ⟨m, -, hread⟩ := asRead_of_merges h
    rw [hread]
    exact fun hread => nomatch hread.1
  · rwa [asRead_of_not_merges h]

theorem WellFormed.legible_asRead {d : Declared} (h : d.WellFormed) : d.asRead.Legible := by
  by_cases hmerges : d.Merges
  · obtain ⟨m, hm, hread⟩ := asRead_of_merges hmerges
    rw [hread]
    -- the name that is left is an end of the written one
    have hmore : ∀ c ∈ m.more, c ∈ d.name.more := by
      intro c hc
      have htail : d.name.more = "ragment".toList ++ (m.first :: m.more) := (List.cons.inj hm).2
      rw [htail]
      exact List.mem_append_right _ (List.mem_cons_of_mem _ hc)
    refine { h.toLegible with keyword := ?_, name := fun c hc => h.name c (hmore c hc) }
    rintro _ ⟨⟩
    exact .nil
  · rw [asRead_of_not_merges hmerges]
    exact h.toLegible

/-! ## 3. One declaration is read -/

/-- The body of a declaration. -/
def body (d : Declared) : Body :=
  .last none (.cons (.atom none (.member (.literal d.literal none)) none) .nil) ⟨none, none⟩

theorem text_plain {d : Declared} (h : d.keyword = none) (after : List Char) :
    d.text ++ after = d.lead ++ (d.name.lexeme.text ++ (d.behindName ++ after)) := by
  simp [text, beforeName, h, Name.lexeme, Lexeme.text]

theorem text_fragment {d : Declared} {gap : List Char} (h : d.keyword = some gap)
    (after : List Char) :
    d.text ++ after = d.lead ++ ("fragment".toList ++ (gap ++
      (d.name.lexeme.text ++ (d.behindName ++ after)))) := by
  simp [text, beforeName, h, Name.lexeme, Lexeme.text]

theorem behindName_append (d : Declared) (after : List Char) :
    d.behindName ++ after = d.beforeColon ++ (":".toList ++ (d.beforeLiteral ++
      ((Lexeme.literal d.literal).text ++ (d.beforeSemicolon ++ (";".toList ++ after))))) := by
  simp [behindName, Lexeme.text]

theorem Legible.follows {d : Declared} (h : d.Legible) (after : List Char) :
    Follows d.name (.sign ":" :: (d.body.tokens ++ [.sign ";"])) (d.behindName ++ after) after := by
  rw [behindName_append]
  exact {
    valid := ⟨d.name.isKind, h.name⟩
    apart := h.beforeColon.not_isNameChar
    steps := .cons h.beforeColon (by decide : ":" ∈ Lexeme.signs) (fun _ _ => rfl)
      (.cons h.beforeLiteral h.literal (fun _ _ => rfl)
        (.cons h.beforeSemicolon (by decide : ";" ∈ Lexeme.signs) (fun _ _ => rfl)
          (.nil after))) }

/-- What is read of a declaration before some text, in a text of `N` characters. -/
def declaration (d : Declared) (N : Nat) (after : List Char) : Declaration where
  name := d.name.string
  position := N - ((d.name.first :: d.name.more) ++ (d.behindName ++ after)).length
  fragment := d.keyword.isSome
  body := d.body.expr

/-- **A declaration is read as it is written**, if its name is not read as the keyword and another
    name. -/
theorem Legible.reads {d : Declared} (h : d.Legible) (hname : ¬ d.Merges) {depth : Nat}
    {us : List Lexeme} {after : List Char} (hus : Spelled us after)
    (hnone : Fails N exceptionHandler after) (hN : (d.text ++ after).length ≤ N)
    (hdepth : 0 < depth) :
    Reads N (G4.declaration depth) (d.text ++ after) (d.declaration N after) after := by
  have hbody : Takes (alternatives (block depth)) d.body.tokens d.body.expr (.sign ";" :: us) := by
    refine d.body.takes ⟨trivial, trivial⟩ ?_ hdepth
    rintro _ ⟨⟩
    exact .inr rfl
  cases hkeyword : d.keyword with
  | none =>
    have hnot : ¬ d.name.Merges := fun hmerges => hname ⟨hkeyword, hmerges⟩
    rw [text_plain hkeyword] at hN ⊢
    rw [declaration, hkeyword]
    exact reads_declaration h.lead (h.follows after) hus hbody hnone hN hnot
  | some gap =>
    rw [text_fragment hkeyword] at hN ⊢
    rw [declaration, hkeyword]
    exact reads_fragmentDeclaration h.lead (h.keyword gap hkeyword) (h.follows after) hus hbody
      hnone hN

/-! ## 4. All declarations are read -/

/-- The tokens of a declaration as it is written. -/
def tokens (d : Declared) : List Lexeme :=
  (d.keyword.elim [] fun _ => [.name 'f' "ragment".toList]) ++
    (d.name.lexeme :: .sign ":" :: (d.body.tokens ++ [.sign ";"]))

theorem WellFormed.steps {d : Declared} (h : d.WellFormed) (after : List Char) :
    Steps d.tokens (d.text ++ after) after := by
  have hfollows := h.follows after
  have hname {gap : List Char} (hgap : IsGap gap) :
      Steps (d.name.lexeme :: .sign ":" :: (d.body.tokens ++ [.sign ";"]))
        (gap ++ (d.name.lexeme.text ++ (d.behindName ++ after))) after :=
    .cons hgap hfollows.valid hfollows.apart hfollows.steps
  cases hkeyword : d.keyword with
  | none =>
    rw [text_plain hkeyword, tokens, hkeyword]
    exact hname h.lead
  | some gap =>
    have hgap := h.keyword gap hkeyword
    have hne : gap ≠ [] := fun hnil => h.separate (hkeyword.trans (congrArg some hnil))
    have hvalid : (Lexeme.name 'f' "ragment".toList).Valid := ⟨by decide, by decide⟩
    rw [text_fragment hkeyword, tokens, hkeyword]
    exact .cons h.lead hvalid (Lexeme.apart_of_gap hgap hne _ _) (hname hgap)

theorem Legible.between {d : Declared} (h : d.Legible) (after : List Char) :
    BetweenDeclarations (d.text ++ after) := by
  cases hkeyword : d.keyword with
  | none =>
    rw [text_plain hkeyword, behindName_append]
    exact .inl ⟨d.lead, d.name.first :: d.name.more, d.beforeColon, _, h.lead,
      (h.follows after).valid.nameChars, h.beforeColon, rfl⟩
  | some gap =>
    rw [text_fragment hkeyword]
    exact .inr (.inl ⟨d.lead, _, h.lead, rfl⟩)

end Declared

theorem spelled_textOf {ds : List Declared} (h : ∀ d ∈ ds, d.WellFormed) {tail : List Char}
    (htail : IsGap tail) : Spelled (ds.flatMap Declared.tokens) (textOf ds ++ tail) := by
  induction ds with
  | nil => exact ⟨tail, .nil tail, htail⟩
  | cons d ds ih =>
    have hsteps := (h d List.mem_cons_self).steps (textOf ds ++ tail)
    rw [List.flatMap_cons, textOf, List.flatMap_cons, List.append_assoc]
    exact hsteps.spelled (ih fun d' hd' => h d' (List.mem_cons_of_mem _ hd'))

theorem between_textOf {ds : List Declared} (h : ∀ d ∈ ds, d.WellFormed) {tail : List Char}
    (htail : IsGap tail) : BetweenDeclarations (textOf ds ++ tail) := by
  cases ds with
  | nil => exact .inr (.inr htail)
  | cons d ds =>
    rw [textOf, List.flatMap_cons, List.append_assoc]
    exact (h d List.mem_cons_self).between (textOf ds ++ tail)

/-- What is read of declarations at the end of a text of `N` characters. -/
def declarationsOf (N : Nat) (tail : List Char) : List Declared → List Declaration
  | [] => []
  | d :: ds => d.asRead.declaration N (textOf ds ++ tail) :: declarationsOf N tail ds

/-- **All declarations of a text are read, one after another.** -/
theorem readsParts_declared {ds : List Declared} (h : ∀ d ∈ ds, d.WellFormed) {tail : List Char}
    (htail : IsGap tail) (hN : (textOf ds ++ tail).length ≤ N) {depth : Nat}
    (hdepth : ds.length ≤ depth) :
    ReadsParts N depth (textOf ds ++ tail) (declarationsOf N tail ds) tail := by
  induction ds with
  | nil => exact readsParts_nil htail hN
  | cons d ds ih =>
    have hds : ∀ d' ∈ ds, d'.WellFormed := fun d' hd' => h d' (List.mem_cons_of_mem _ hd')
    have htext : textOf (d :: ds) ++ tail = d.asRead.text ++ (textOf ds ++ tail) := by
      rw [textOf, List.flatMap_cons, List.append_assoc, d.text_asRead]
      rfl
    rw [htext] at hN ⊢
    have hN' : (textOf ds ++ tail).length ≤ N := by
      rw [List.length_append] at hN
      omega
    -- the text behind is spelled with the names as written, while this one is read as it is read
    have hd := (h d List.mem_cons_self).legible_asRead.reads d.not_merges_asRead
      (spelled_textOf hds htail) ((between_textOf hds htail).no_exceptionHandler hN')
      hN (Nat.zero_lt_of_lt hdepth)
    exact ReadsParts.cons hd (ih hds hN' (Nat.le_of_succ_le hdepth))

/-! ## 5. The rules of a text -/

/-- The line of a declaration is counted up to its name. -/
theorem Declared.toRule_declaration (d : Declared) (before after : List Char) :
    (d.declaration (before ++ (d.text ++ after)).length after).toRule
      (before ++ (d.text ++ after)) = d.rule before := by
  have htext : before ++ (d.text ++ after) = (before ++ d.beforeName) ++
      ((d.name.first :: d.name.more) ++ (d.behindName ++ after)) := by
    simp [Declared.text]
  have htake : (before ++ (d.text ++ after)).take
      (d.declaration (before ++ (d.text ++ after)).length after).position =
        before ++ d.beforeName := by
    rw [Declared.declaration, htext, List.length_append, Nat.add_sub_cancel, List.take_left]
  rw [Declaration.toRule, htake]
  rfl

theorem map_toRule_declarationsOf (before tail : List Char) (ds : List Declared) :
    (declarationsOf (before ++ (textOf ds ++ tail)).length tail ds).map
      (·.toRule (before ++ (textOf ds ++ tail))) = rulesOf before (ds.map Declared.asRead) := by
  induction ds generalizing before with
  | nil => rfl
  | cons d ds ih =>
    have htext : before ++ (textOf (d :: ds) ++ tail) =
        before ++ (d.asRead.text ++ (textOf ds ++ tail)) := by
      rw [d.text_asRead, textOf, List.flatMap_cons, List.append_assoc]
      rfl
    rw [htext, declarationsOf, List.map_cons, d.asRead.toRule_declaration, List.map_cons, rulesOf,
      ← ih, List.append_assoc]

theorem length_declarationsOf (N : Nat) (tail : List Char) (ds : List Declared) :
    (declarationsOf N tail ds).length = ds.length := by
  induction ds with
  | nil => rfl
  | cons d ds ih => rw [declarationsOf, List.length_cons, List.length_cons, ih]

theorem length_le_textOf (ds : List Declared) : ds.length ≤ (textOf ds).length := by
  induction ds with
  | nil => exact Nat.le_refl 0
  | cons d ds ih =>
    have hd : 0 < d.text.length := by
      simp only [Declared.text, List.length_append, List.length_cons]
      omega
    rw [textOf, List.flatMap_cons, List.length_append, List.length_cons]
    have htext : (List.flatMap Declared.text ds).length = (textOf ds).length := rfl
    omega

/-- **What is read of a text of declarations**, whatever their names: the rules in order, each on
    the line of its name. -/
theorem read_declared {ds : List Declared} (h : ∀ d ∈ ds, d.WellFormed) {tail : List Char}
    (htail : IsGap tail) :
    Grammar.read (textOf ds ++ tail) = .ok { rules := rulesOf [] (ds.map Declared.asRead) } := by
  have hlength : ds.length ≤ (textOf ds ++ tail).length := by
    have hle := length_le_textOf ds
    rw [List.length_append]
    omega
  have hparts := readsParts_declared h htail (Nat.le_refl _) hlength
  have hds : (declarationsOf (textOf ds ++ tail).length tail ds).length ≤
      (textOf ds ++ tail).length := by
    rw [length_declarationsOf]
    exact hlength
  have htailLength : tail.length ≤ (textOf ds ++ tail).length := by
    rw [List.length_append]
    omega
  have hfile := reads_file (between_textOf h htail) hparts hds htail (Nat.le_refl _) htailLength
  rw [read_of_reads_file hfile, ← map_toRule_declarationsOf]
  rfl

/-- The rules that are read are those that are written if and only if every declaration is read as
    it is written. -/
theorem rulesOf_asRead_iff (before : List Char) (ds : List Declared) :
    rulesOf before (ds.map Declared.asRead) = rulesOf before ds ↔ ∀ d ∈ ds, ¬ d.Merges := by
  induction ds generalizing before with
  | nil => exact ⟨fun _ => nofun, fun _ => rfl⟩
  | cons d ds ih =>
    rw [List.map_cons, rulesOf, rulesOf, d.text_asRead, List.cons.injEq, ih, List.forall_mem_cons]
    refine and_congr_left fun _ => ⟨fun hrule hmerges => ?_, fun hnot => ?_⟩
    · -- a merged name is read as that of a fragment
      obtain ⟨m, -, hread⟩ := Declared.asRead_of_merges hmerges
      have hfragment := congrArg Rule.fragment hrule
      rw [hread, Declared.rule, Declared.rule, hmerges.1] at hfragment
      cases hfragment
    · rw [Declared.asRead_of_not_merges hnot]

/-- **A text of declarations is read as it is written**, name by name, with the line of each name
    and the keyword where it stands as a word of its own, if and only if no name without keyword is
    the word `fragment` and another name. -/
theorem declared_as_written (ds : List Declared) (tail : List Char)
    (h : ∀ d ∈ ds, d.WellFormed) (htail : IsGap tail) :
    Grammar.read (textOf ds ++ tail) = .ok { rules := rulesOf [] ds } ↔ ∀ d ∈ ds, ¬ d.Merges := by
  rw [read_declared h htail, ← rulesOf_asRead_iff []]
  constructor
  · intro hread
    exact congrArg Grammar.rules (Except.ok.inj hread)
  · intro hrules
    rw [hrules]

/-- A name like a keyword behind the keyword, and one that begins like a grammar declaration. -/
def keywordNames : List Declared :=
  [⟨[], some [' '], ⟨'f', "ragmentary".toList, rfl⟩, [' '], [' '], ['a'], [' ']⟩,
    ⟨['\n'], none, ⟨'g', "rammarT".toList, rfl⟩, [], [], ['b'], []⟩]

theorem declared_as_written_keywords :
    Grammar.read "fragment fragmentary : 'a' ;\ngrammarT:'b';\n".toList = .ok { rules := [
      ⟨"fragmentary", .choice [.sequence [.literal "'a'"]], 1, true⟩,
      ⟨"grammarT", .choice [.sequence [.literal "'b'"]], 2, false⟩] } := by
  have hblank : ∀ c, isBlank c = true → IsGap [c] := fun c hc => .blank hc .nil
  have hletter : ∀ c, c ≠ '\'' → c ≠ '\\' → Scan.isInline c = true →
      Enclosed '\'' Scan.isInline [c] := fun c hquote hslash hc => .plain hquote hslash hc .nil
  have hformed : ∀ d ∈ keywordNames, d.WellFormed := by
    intro d hd
    simp only [keywordNames, List.mem_cons, List.not_mem_nil, or_false] at hd
    rcases hd with rfl | rfl
    · exact {
        lead := .nil
        keyword := by rintro _ ⟨⟩; exact hblank _ rfl
        name := by decide
        beforeColon := hblank _ rfl
        beforeLiteral := hblank _ rfl
        literal := hletter 'a' (by decide) (by decide) rfl
        beforeSemicolon := hblank _ rfl
        separate := by simp }
    · exact {
        lead := hblank _ rfl
        keyword := by simp
        name := by decide
        beforeColon := .nil
        beforeLiteral := .nil
        literal := hletter 'b' (by decide) (by decide) rfl
        beforeSemicolon := .nil
        separate := by simp }
  have hnot : ∀ d ∈ keywordNames, ¬ d.Merges := by
    intro d hd hmerges
    simp only [keywordNames, List.mem_cons, List.not_mem_nil, or_false] at hd
    rcases hd with rfl | rfl
    · cases hmerges.1
    · obtain ⟨m, hm⟩ := hmerges.2
      have hfirst : 'g' = 'f' := (List.cons.inj hm).1
      exact absurd hfirst (by decide)
  exact (declared_as_written keywordNames ['\n'] hformed (hblank _ rfl)).mpr hnot

/-- The declaration of `fragmentfoo` is read as that of the fragment `foo`. -/
theorem fragment_taken_from_name :
    Grammar.read "fragmentfoo : 'a' ;".toList =
      .ok { rules := [⟨"foo", .choice [.sequence [.literal "'a'"]], 1, true⟩] } := by
  have hblank : IsGap [' '] := .blank rfl .nil
  let d : Declared := ⟨[], none, ⟨'f', "ragmentfoo".toList, rfl⟩, [' '], [' '], ['a'], [' ']⟩
  have hformed : d.WellFormed :=
    { lead := .nil
      keyword := by simp
      name := by decide
      beforeColon := hblank
      beforeLiteral := hblank
      literal := .plain (by decide) (by decide) rfl .nil
      beforeSemicolon := hblank
      separate := by simp }
  have hread := read_declared (List.forall_mem_singleton.mpr hformed) IsGap.nil
  exact hread

end GrammarManual.G4
