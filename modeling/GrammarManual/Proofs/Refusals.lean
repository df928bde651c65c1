import GrammarManual.Proofs.SourceLines
import Mathlib.Data.List.Induction

/-!
# Proofs/Refusals: where a text is said to go wrong

A text that is no grammar is refused at one of its characters or at its end. An error names a
character by line and column; it names the end of a text by none.

* `Text.IsPlaceOf` -- line and column of a place, with what stands before it;
  `isPlaceOf_cursor` counts them from what was read;
* `moveOn_le`, `le_moveOn` -- a text is refused inside of it or at its end, and not before the
  furthest place at which a token was missing;
* **`refused_at_a_place`** -- an error names the line and column of the place of refusal, unless
  this is the end of the text;
* `unfinished_text_unplaced` -- a text that is refused at its end.
-/

namespace GrammarManual

namespace Text

/-! ## 1. Lines and columns -/

/-- Lines with the newlines behind them. -/
def closeLines (ls : List (List Char)) : List Char := ls.flatMap (· ++ ['\n'])

/-- What stands on the last line of a text. -/
def lastLine (s : List Char) : List Char := (s.reverse.takeWhile (· ≠ '\n')).reverse

theorem lastLine_newline (s : List Char) : lastLine (s ++ ['\n']) = [] := by
  rw [lastLine, List.reverse_concat, List.takeWhile_cons_of_neg (by simp), List.reverse_nil]

theorem lastLine_concat {c : Char} (hc : c ≠ '\n') (s : List Char) :
    lastLine (s ++ [c]) = lastLine s ++ [c] := by
  rw [lastLine, List.reverse_concat, List.takeWhile_cons_of_pos (by simpa using hc),
    List.reverse_cons]
  rfl

theorem newline_notMem_lastLine (s : List Char) : '\n' ∉ lastLine s := fun h => by
  have hc := List.mem_takeWhile_imp (List.mem_reverse.mp h)
  exact of_decide_eq_true hc rfl

/-- A text is the lines that it closes and what stands on its last line. -/
theorem exists_closeLines (s : List Char) : ∃ above : List (List Char),
    s = closeLines above ++ lastLine s ∧ above.length = newlines s ∧
      ∀ line ∈ above, '\n' ∉ line := by
  induction s using List.reverseRecOn with
  | nil => exact ⟨[], rfl, rfl, fun line h => absurd h List.not_mem_nil⟩
  | append_singleton s c ih =>
    obtain ⟨above, hs, hlength, habove⟩ := ih
    by_cases hc : c = '\n'
    · refine ⟨above ++ [lastLine s], ?_, ?_, fun line h => ?_⟩
      · rw [hc, lastLine_newline, List.append_nil, closeLines, List.flatMap_append,
          List.flatMap_singleton, ← List.append_assoc]
        exact congrArg (· ++ ['\n']) hs
      · rw [List.length_append, hlength, newlines, newlines, List.count_append, hc]
        rfl
      · rcases List.mem_append.mp h with h | h
        · exact habove line h
        · exact List.mem_singleton.mp h ▸ newline_notMem_lastLine s
    · refine ⟨above, ?_, ?_, habove⟩
      · rw [lastLine_concat hc, ← List.append_assoc]
        exact congrArg (· ++ [c]) hs
      · rw [hlength, newlines, newlines, List.count_append,
          List.count_eq_zero.mpr fun h => hc (List.mem_singleton.mp h).symm, Nat.add_zero]

theorem splitNewlines_closeLines {above : List (List Char)} (h : ∀ line ∈ above, '\n' ∉ line)
    (rest : List Char) :
    splitNewlines (closeLines above ++ rest) = above ++ splitNewlines rest := by
  induction above with
  | nil => rfl
  | cons line above ih =>
    obtain ⟨hline, habove⟩ := List.forall_mem_cons.mp h
    have hcons : closeLines (line :: above) ++ rest =
        line ++ '\n' :: (closeLines above ++ rest) := by
      simp [closeLines]
    rw [hcons, splitNewlines_append, splitNewlines_oneLine hline, ih habove]
    rfl

/-- The first line of a text ends at the first newline. -/
theorem splitNewlines_front {front : List Char} (h : '\n' ∉ front) (s : List Char) :
    ∃ more below, splitNewlines (front ++ s) = (front ++ more) :: below := by
  induction front with
  | nil =>
    obtain ⟨piece, pieces, hs, -⟩ := splitNewlines_cons (by decide : ' ' ≠ '\n') s
    exact ⟨piece, pieces, hs⟩
  | cons c front ih =>
    have hc : c ≠ '\n' := fun e => h (e ▸ List.mem_cons_self)
    obtain ⟨more, below, hfront⟩ := ih fun hm => h (List.mem_cons_of_mem c hm)
    obtain ⟨piece, pieces, hpiece, hcons⟩ := splitNewlines_cons hc (front ++ s)
    rw [hfront] at hpiece
    cases hpiece
    exact ⟨more, below, hcons⟩

/-- **Line and column of a place**, given by the number of characters before it: these are the lines
    above, with their newlines, and what stands before the column on the line itself. Lines and
    columns are counted from 1, and behind the last character of a line there is one more column. -/
structure IsPlaceOf (text : List Char) (n line column : Nat) : Prop where
  line_pos : 1 ≤ line
  line_le : line ≤ (splitNewlines text).length
  column_pos : 1 ≤ column
  there : ∃ content, (splitNewlines text)[line - 1]? = some content ∧
    column ≤ content.length + 1 ∧
      text.take n = closeLines ((splitNewlines text).take (line - 1)) ++ content.take (column - 1)

/-- **A place is named by the newlines before it and by what stands before it on its line.** -/
theorem isPlaceOf_cursor (before rest : List Char) :
    IsPlaceOf (before ++ rest) before.length (newlines before + 1)
      ((lastLine before).length + 1) := by
  obtain ⟨above, hbefore, hlength, habove⟩ := exists_closeLines before
  obtain ⟨more, below, hfront⟩ := splitNewlines_front (newline_notMem_lastLine before) rest
  have hlines : splitNewlines (before ++ rest) = above ++ (lastLine before ++ more) :: below := by
    have hsplit := splitNewlines_closeLines habove (lastLine before ++ rest)
    rw [← List.append_assoc, ← hbefore, hfront] at hsplit
    exact hsplit
  refine ⟨Nat.le_add_left _ _, ?_, Nat.le_add_left _ _, lastLine before ++ more, ?_, ?_, ?_⟩
  · rw [hlines, List.length_append, List.length_cons, hlength]
    omega
  · rw [hlines, Nat.add_sub_cancel, ← hlength, List.getElem?_append_right (Nat.le_refl _),
      Nat.sub_self]
    rfl
  · rw [List.length_append]
    omega
  · rw [hlines, Nat.add_sub_cancel, Nat.add_sub_cancel, ← hlength, List.take_left, List.take_left,
      List.take_left]
    exact hbefore

end Text

/-! ## 2. Where a text is refused -/

namespace G4

theorem moveOn_le (missing position reach : Nat) (s : List Char) :
    moveOn missing position reach s ≤ position + s.length := by
  induction s generalizing position reach with
  | nil => exact Nat.le_refl _
  | cons c rest ih =>
    rw [moveOn]
    split
    · exact (ih _ _).trans (by rw [List.length_cons]; omega)
    · exact Nat.le_add_right _ _

theorem le_moveOn (missing position reach : Nat) (s : List Char) :
    min missing (position + s.length) ≤ moveOn missing position reach s := by
  induction s generalizing position reach with
  | nil => exact Nat.min_le_right _ _
  | cons c rest ih =>
    rw [moveOn]
    split
    · have hrest := ih (position + 1) (max reach (ignorableEnd position (c :: rest)))
      rw [List.length_cons]
      omega
    · omega

/-- An error at the end of a text names no place, any other the place of a character. -/
theorem errorAt_eq (position : Nat) (s : List Char) :
    (∃ c line column, s[position]? = some c ∧ errorAt position s = .unexpected c line column ∧
        Text.IsPlaceOf s position line column) ∨
      (s.length ≤ position ∧ errorAt position s = .unfinished) := by
  rw [errorAt]
  cases hrest : s.drop position with
  | nil => exact .inr ⟨List.drop_eq_nil_iff.mp hrest, rfl⟩
  | cons c rest =>
    have hthere : s[position]? = some c := by
      rw [← List.head?_drop, hrest]
      rfl
    obtain ⟨hlt, -⟩ := List.getElem?_eq_some_iff.mp hthere
    have hplace := Text.isPlaceOf_cursor (s.take position) (s.drop position)
    rw [List.take_append_drop, List.length_take_of_le (Nat.le_of_lt hlt), Text.lastLine,
      List.length_reverse] at hplace
    exact .inl ⟨c, _, _, hthere, rfl, hplace⟩

end G4

/-- The furthest place of a text at which a token was missing. -/
def Grammar.furthest (text : List Char) : Nat := (G4.file text.length (.start text)).furthest

/-- The place at which a text that is no grammar is refused. -/
def Grammar.refusedAt (text : List Char) : Nat := G4.refusalPlace (Grammar.furthest text) text

theorem Grammar.read_error {text : List Char} {e : G4Error} (h : Grammar.read text = .error e) :
    e = G4.errorAt (Grammar.refusedAt text) text := by
  rw [Grammar.read] at h
  split at h
  · cases h
  · exact (Except.error.inj h).symm

instance (text : List Char) (e : G4Error) : Decidable (Grammar.read text = .error e) :=
  match Grammar.read text with
  | .ok _ => isFalse nofun
  | .error e' => decidable_of_iff (e' = e) (by rw [Except.error.injEq])

/-- **A text is refused at one of its characters, and the message names that character by line and
    column, or at its end, and then the message names no place.** It is not refused before the
    furthest place at which a token was missing. -/
theorem refused_at_a_place {text : List Char} {e : G4Error} (h : Grammar.read text = .error e)
    (source : String) :
    min (Grammar.furthest text) text.length ≤ Grammar.refusedAt text ∧
      ((∃ c line column, text[Grammar.refusedAt text]? = some c ∧
          Text.IsPlaceOf text (Grammar.refusedAt text) line column ∧ e = .unexpected c line column ∧
          e.message source =
            source ++ ":" ++ (toString line ++ ":" ++ toString column) ++ ": " ++ e.summary) ∨
        (Grammar.refusedAt text = text.length ∧ e = .unfinished ∧
          e.message source = source ++ ":-1:-1: Unexpected end-of-input. Expected one of: ")) := by
  have he := Grammar.read_error h
  have hlower := G4.le_moveOn (Grammar.furthest text) 0 0 text
  have hupper := G4.moveOn_le (Grammar.furthest text) 0 0 text
  rw [Nat.zero_add] at hlower hupper
  refine ⟨hlower, ?_⟩
  obtain ⟨c, line, column, hc, herror, hplace⟩ | ⟨hend, herror⟩ :=
    G4.errorAt_eq (Grammar.refusedAt text) text
  · subst he
    exact .inl ⟨c, line, column, hc, hplace, herror, by rw [herror]; rfl⟩
  · rw [herror] at he
    subst he
    exact .inr ⟨Nat.le_antisymm hupper hend, rfl, by
      simp only [G4Error.message, G4Error.place, G4Error.summary, String.append_assoc]
      rfl⟩

theorem refused_at_a_place_unclosed :
    Grammar.read "r\n: 'a".toList = .error (.unexpected '\'' 2 3) ∧
      min (Grammar.furthest "r\n: 'a".toList) 6 ≤ Grammar.refusedAt "r\n: 'a".toList ∧
        ((∃ c line column, "r\n: 'a".toList[Grammar.refusedAt "r\n: 'a".toList]? = some c ∧
            Text.IsPlaceOf "r\n: 'a".toList (Grammar.refusedAt "r\n: 'a".toList) line column ∧
            G4Error.unexpected '\'' 2 3 = .unexpected c line column ∧
            (G4Error.unexpected '\'' 2 3).message "T.g4" =
              "T.g4" ++ ":" ++ (toString line ++ ":" ++ toString column) ++ ": " ++
                (G4Error.unexpected '\'' 2 3).summary) ∨
          (Grammar.refusedAt "r\n: 'a".toList = 6 ∧ G4Error.unexpected '\'' 2 3 = .unfinished ∧
            (G4Error.unexpected '\'' 2 3).message "T.g4" =
              "T.g4" ++ ":-1:-1: Unexpected end-of-input. Expected one of: ")) := by
  have hread : Grammar.read "r\n: 'a".toList = .error (.unexpected '\'' 2 3) := by
    decide +kernel
  exact ⟨hread, refused_at_a_place hread "T.g4"⟩

/-- **A text that ends too early**: it is one without its semicolon, and no line or column, whatever
    their values, gives the place that its message names. -/
theorem unfinished_text_unplaced :
    Grammar.read "r : 'a'".toList = .error .unfinished ∧
      G4Error.unfinished.message "<string>" =
        "<string>:-1:-1: Unexpected end-of-input. Expected one of: " ∧
      ∀ line column : Nat, G4Error.unfinished.place ≠ toString line ++ ":" ++ toString column := by
  refine ⟨by decide +kernel, by decide, fun line column hplace => ?_⟩
  -- a number begins with a digit
  have hlist := congrArg String.toList hplace
  rw [String.toList_append, String.toList_append, Nat.toString_eq_repr,
    Nat.repr_eq_ofList_toDigits, String.toList_ofList] at hlist
  cases hdigits : Nat.toDigits 10 line with
  | nil => exact Nat.toDigits_ne_nil hdigits
  | cons d ds =>
    have hmem : d ∈ Nat.toDigits 10 line := hdigits ▸ List.mem_cons_self
    have hd : d.isDigit := Nat.isDigit_of_mem_toDigits (by omega) (by omega) hmem
    rw [hdigits] at hlist
    cases List.head_eq_of_cons_eq hlist
    exact absurd hd (by decide)

end GrammarManual
