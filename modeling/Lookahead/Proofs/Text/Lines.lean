import Lookahead.Proofs.Lexer.Place
import Mathlib.Data.List.TakeWhile

/-!
# Lines and columns

A position counts lines and columns one character at a time. What it has counted behind a text can
be said of the text as a whole: there is a line for each line break in it, and a column for each
character behind the last line break. Cutting a text at its line breaks comes to the same lines, so
the line of a position is found among them under its number.

Main statements: `Position.counts_start_advanceOver` and `Text.getElem?_lines_count`.
-/

namespace Lookahead

namespace Text

/-- A text can be cut in one way only at its first character that is not of some class. -/
theorem cut_unique (inside : Char → Prop) {front front' back back' : List Char} {c c' : Char}
    (within : ∀ d ∈ front, inside d) (within' : ∀ d ∈ front', inside d) (out : ¬ inside c)
    (out' : ¬ inside c') (same : front ++ c :: back = front' ++ c' :: back') :
    front = front' ∧ c = c' ∧ back = back' := by
  induction front generalizing front' with
  | nil =>
    cases front' with
    | nil => exact ⟨rfl, List.cons.inj same⟩
    | cons d front' =>
      obtain ⟨rfl, -⟩ := List.cons.inj same
      exact absurd (within' c List.mem_cons_self) out
  | cons d front ih =>
    cases front' with
    | nil =>
      obtain ⟨rfl, -⟩ := List.cons.inj same
      exact absurd (within d List.mem_cons_self) out'
    | cons d' front' =>
      obtain ⟨rfl, later⟩ := List.cons.inj same
      obtain ⟨rfl, rest⟩ := ih (List.forall_mem_cons.mp within).2
        (List.forall_mem_cons.mp within').2 later
      exact ⟨rfl, rest⟩

/-- What stands behind the last line break of a text, or all of it if there is none. -/
def lastLine (lineBreak : Char) (text : List Char) : List Char :=
  (text.reverse.takeWhile (· != lineBreak)).reverse

variable {lineBreak : Char}

theorem lastLine_of_not_mem {text : List Char} (absent : lineBreak ∉ text) :
    lastLine lineBreak text = text := by
  have all : text.reverse.takeWhile (· != lineBreak) = text.reverse := by
    rw [List.takeWhile_eq_self_iff]
    intro c member
    have other : c ≠ lineBreak := fun same => absent (same ▸ List.mem_reverse.mp member)
    simpa using other
  rw [lastLine, all, List.reverse_reverse]

/-- A character in front of the last line break does not belong to the last line. -/
theorem lastLine_cons_of_mem {text : List Char} (present : lineBreak ∈ text) (c : Char) :
    lastLine lineBreak (c :: text) = lastLine lineBreak text := by
  have short : (text.reverse.takeWhile (· != lineBreak)).length ≠ text.reverse.length := by
    intro same
    have whole := (List.takeWhile_prefix (· != lineBreak)).eq_of_length same
    rw [List.takeWhile_eq_self_iff] at whole
    simpa using whole lineBreak (List.mem_reverse.mpr present)
  rw [lastLine, List.reverse_cons, List.takeWhile_append, if_neg short, lastLine]

theorem lastLine_cons_self (text : List Char) :
    lastLine lineBreak (lineBreak :: text) = lastLine lineBreak text := by
  by_cases present : lineBreak ∈ text
  · exact lastLine_cons_of_mem present lineBreak
  · have absent : lineBreak ∉ text.reverse := by simpa using present
    rw [lastLine_of_not_mem present, lastLine, List.reverse_cons, List.takeWhile_append_of_pos]
    · simp
    · intro c member
      have other : c ≠ lineBreak := fun same => absent (same ▸ member)
      simpa using other

/-- The last line stands right behind a line break. -/
theorem exists_append_lastLine {text : List Char} (present : lineBreak ∈ text) :
    ∃ front, text = front ++ lineBreak :: lastLine lineBreak text := by
  induction text with
  | nil => cases present
  | cons c rest ih =>
    by_cases later : lineBreak ∈ rest
    · obtain ⟨front, split⟩ := ih later
      refine ⟨c :: front, ?_⟩
      rw [lastLine_cons_of_mem later, List.cons_append, ← split]
    · have same : lineBreak = c := by simpa [later] using present
      refine ⟨[], ?_⟩
      rw [← same, lastLine_cons_self, lastLine_of_not_mem later, List.nil_append]

/-- The first line goes up to the first line break. -/
theorem getElem?_lines_zero (lineBreak : Char) (text : List Char) :
    (lines lineBreak text)[0]? = some (text.takeWhile (· != lineBreak)) := by
  induction text with
  | nil => rfl
  | cons c rest ih =>
    by_cases same : c = lineBreak
    · simp [lines, same]
    · cases whole : lines lineBreak rest with
      | nil => simp [whole] at ih
      | cons line others =>
        have first : line = rest.takeWhile (· != lineBreak) := by simpa [whole] using ih
        simp [lines, same, whole, first]

/-- The line around a place has as many lines in front of it as there are line breaks. -/
theorem getElem?_lines_count (lineBreak : Char) (front back : List Char) :
    (lines lineBreak (front ++ back))[front.count lineBreak]? =
      some (lastLine lineBreak front ++ back.takeWhile (· != lineBreak)) := by
  induction front with
  | nil => exact getElem?_lines_zero lineBreak back
  | cons c rest ih =>
    by_cases same : c = lineBreak
    · -- The line break ends the first line, which is empty.
      rw [same, List.cons_append, lines, if_pos rfl, List.count_cons_self,
        List.getElem?_cons_succ, ih, lastLine_cons_self]
    · rw [List.count_cons_of_ne (by simpa using same), List.cons_append, lines, if_neg same]
      cases whole : lines lineBreak (rest ++ back) with
      | nil => simp [whole] at ih
      | cons line others =>
        rw [whole] at ih
        by_cases present : lineBreak ∈ rest
        · -- The place is in a later line, which the character does not change.
          have positive : 0 < rest.count lineBreak := List.count_pos_iff.mpr present
          obtain ⟨before, counted⟩ := Nat.exists_eq_succ_of_ne_zero (Nat.ne_of_gt positive)
          rw [counted, List.getElem?_cons_succ] at ih ⊢
          rw [ih, lastLine_cons_of_mem present]
        · have never : rest.count lineBreak = 0 := List.count_eq_zero.mpr present
          have absent : lineBreak ∉ c :: rest := by
            simpa [present] using Ne.symm same
          rw [never, List.getElem?_cons_zero, lastLine_of_not_mem present] at ih
          rw [never, List.getElem?_cons_zero, lastLine_of_not_mem absent, Option.some.inj ih]
          rfl

end Text

namespace Position

/-- The position is that of the place behind `front`, where this is all the text in front of it:
the index counts bytes, the line counts line breaks, and the column counts the characters behind
the last line break. -/
structure Counts (position : Position) (lineBreak : Char) (front : List Char) : Prop where
  index : position.index = Text.byteLength front
  line : position.line = 1 + front.count lineBreak
  column : position.column = 1 + (Text.lastLine lineBreak front).length

theorem line_advanceOver (position : Position) (lineBreak : Char) (text : List Char) :
    (position.advanceOver lineBreak text).line = position.line + text.count lineBreak := by
  induction text generalizing position with
  | nil => rfl
  | cons c rest ih =>
    rw [advanceOver_cons, ih, advance]
    by_cases same : c = lineBreak
    · simp [same]
      omega
    · simp [same]

theorem column_advanceOver (position : Position) (lineBreak : Char) (text : List Char) :
    (position.advanceOver lineBreak text).column =
      if lineBreak ∈ text then 1 + (Text.lastLine lineBreak text).length
      else position.column + text.length := by
  induction text generalizing position with
  | nil => simp
  | cons c rest ih =>
    rw [advanceOver_cons, ih, advance]
    by_cases present : lineBreak ∈ rest
    · simp [present, Text.lastLine_cons_of_mem present]
    · by_cases same : c = lineBreak
      · subst same
        simp [present, Text.lastLine_cons_self, Text.lastLine_of_not_mem present]
      · simp [present, same, Ne.symm same]
        omega

/-- Line breaks that do not occur make no difference. -/
theorem advanceOver_of_not_mem (position : Position) {a b : Char} {text : List Char}
    (noA : a ∉ text) (noB : b ∉ text) :
    position.advanceOver a text = position.advanceOver b text := by
  induction text generalizing position with
  | nil => rfl
  | cons c rest ih =>
    obtain ⟨otherA, restA⟩ : ¬ a = c ∧ a ∉ rest := by simpa using noA
    obtain ⟨otherB, restB⟩ : ¬ b = c ∧ b ∉ rest := by simpa using noB
    have step : position.advance a c = position.advance b c := by
      rw [advance, advance, if_neg (Ne.symm otherA), if_neg (Ne.symm otherB)]
    rw [advanceOver_cons, advanceOver_cons, step, ih _ restA restB]

/-- Two line breaks lead to the same place just if neither of them occurs in the text. -/
theorem advanceOver_eq_iff {position : Position} {a b : Char} {text : List Char} (other : a ≠ b) :
    position.advanceOver a text = position.advanceOver b text ↔ a ∉ text ∧ b ∉ text := by
  constructor
  · intro same
    have lines := congrArg line same
    rw [line_advanceOver, line_advanceOver, Nat.add_left_cancel_iff] at lines
    by_cases first : a ∈ text
    · have second : b ∈ text := by
        rw [← List.count_pos_iff, ← lines]
        exact List.count_pos_iff.mpr first
      have columns := congrArg column same
      rw [column_advanceOver, column_advanceOver, if_pos first, if_pos second] at columns
      -- The last lines are equally long, so both line breaks stand at the same place.
      obtain ⟨front, split⟩ := Text.exists_append_lastLine first
      obtain ⟨front', split'⟩ := Text.exists_append_lastLine second
      have ends := (List.append_inj' (split.symm.trans split') (by simp; omega)).2
      exact absurd (List.cons.inj ends).1 other
    · have second : b ∉ text := by
        rw [← List.count_eq_zero, ← lines]
        exact List.count_eq_zero.mpr first
      exact ⟨first, second⟩
  · rintro ⟨noA, noB⟩
    exact advanceOver_of_not_mem position noA noB

/-- A position that starts at the first character has counted the text that it went over. -/
theorem counts_start_advanceOver (lineBreak : Char) (front : List Char) :
    (start.advanceOver lineBreak front).Counts lineBreak front where
  index := index_start_advanceOver lineBreak front
  line := line_advanceOver start lineBreak front
  column := by
    rw [column_advanceOver]
    by_cases present : lineBreak ∈ front
    · rw [if_pos present]
    · rw [if_neg present, Text.lastLine_of_not_mem present, start]

end Position

end Lookahead
