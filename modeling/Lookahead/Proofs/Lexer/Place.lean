import Lookahead.Lexer.LexError

/-!
# Places in a text

A position is made by going over the text in front of it, and its index leads back to that place:
the text is found again that is behind it, and what an error tells is around it.

Main statements: `Position.index_advanceOver`, `Text.seek_append` and
`LexError.unexpected_of_index`.
-/

namespace Lookahead

namespace Text

theorem length_le_byteLength (text : List Char) : text.length ≤ byteLength text := by
  induction text with
  | nil => exact Nat.le_refl 0
  | cons c rest ih =>
    have positive := c.utf8Size_pos
    simp only [List.length_cons, byteLength_cons]
    omega

/-- The offset behind `front` leads to the text behind it. -/
theorem seek_append (front : List Char) (c : Char) (rest : List Char) :
    seek (front ++ c :: rest) (byteLength front) = .before (c :: rest) := by
  induction front with
  | nil => rfl
  | cons first front ih =>
    have positive := first.utf8Size_pos
    rw [List.cons_append, byteLength_cons, seek.eq_3 _ _ _ (by omega), if_pos (by omega),
      Nat.add_sub_cancel_left, ih]

theorem seek_byteLength (text : List Char) : seek text (byteLength text) = .beyond := by
  induction text with
  | nil => rfl
  | cons first rest ih =>
    have positive := first.utf8Size_pos
    rw [byteLength_cons, seek.eq_3 _ _ _ (by omega), if_pos (by omega), Nat.add_sub_cancel_left, ih]

theorem splitAtByte_byteLength (front back : List Char) :
    splitAtByte (front ++ back) (byteLength front) = (front, back) := by
  induction front with
  | nil =>
    cases back with
    | nil => rfl
    | cons c rest =>
      have positive := c.utf8Size_pos
      rw [List.nil_append, byteLength_nil, splitAtByte, if_neg (by omega)]
  | cons first front ih =>
    rw [List.cons_append, byteLength_cons, splitAtByte, if_pos (by omega),
      Nat.add_sub_cancel_left, ih]

end Text

theorem Position.index_advanceOver (position : Position) (lineBreak : Char) (text : List Char) :
    (position.advanceOver lineBreak text).index = position.index + Text.byteLength text := by
  induction text generalizing position with
  | nil => rfl
  | cons c rest ih =>
    rw [advanceOver_cons, ih, index_advance, Text.byteLength_cons, Nat.add_assoc]

/-- The place behind `front` has the bytes of `front` in front of it. -/
theorem Position.index_start_advanceOver (lineBreak : Char) (front : List Char) :
    (start.advanceOver lineBreak front).index = Text.byteLength front := by
  rw [index_advanceOver, start, Nat.zero_add]

/-- An error at the place behind `front` tells the character behind it and the line around this
place, however lines and columns were counted. -/
theorem LexError.unexpected_of_index {position : Position} {front : List Char}
    (placed : position.index = Text.byteLength front) (back : List Char) (lineBreak : Char) :
    LexError.unexpected (front ++ back) lineBreak position =
      ⟨back.head?, position, Text.lineAround lineBreak front back⟩ := by
  rw [unexpected, placed, Text.splitAtByte_byteLength]

theorem LexError.unexpected_append (front back : List Char) (lineBreak : Char) :
    LexError.unexpected (front ++ back) lineBreak (Position.start.advanceOver lineBreak front) =
      ⟨back.head?, Position.start.advanceOver lineBreak front,
        Text.lineAround lineBreak front back⟩ :=
  unexpected_of_index (Position.index_start_advanceOver lineBreak front) back lineBreak

end Lookahead
