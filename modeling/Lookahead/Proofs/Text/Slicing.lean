import Lookahead.Proofs.Lexer.Place
import Lookahead.Text.Cuts

/-!
# Where a text can be cut

A text is cut where a character begins, or at its end. Between the two parts of a text there is
always such a place, and there is none inside a character.

Main statements: `Text.splitAt?_eq_some_iff`, `Text.boundaryBefore_inside` and `Text.place_cases`.
-/

namespace Lookahead.Text

/-! ### Cuts -/

variable {text front back : List Char} {offset : Nat} {c : Char}

theorem splitAt?_byteLength (front back : List Char) :
    splitAt? (front ++ back) (byteLength front) = some (front, back) := by
  induction front with
  | nil => cases back <;> rfl
  | cons c front ih =>
    have positive := c.utf8Size_pos
    obtain ⟨size, equal⟩ : ∃ size, byteLength (c :: front) = size + 1 :=
      Nat.exists_eq_succ_of_ne_zero (by rw [byteLength_cons]; omega)
    have rest : size + 1 - c.utf8Size = byteLength front := by
      rw [← equal, byteLength_cons, Nat.add_sub_cancel_left]
    rw [equal, List.cons_append, splitAt?, if_pos (by rw [← equal, byteLength_cons]; omega), rest,
      ih, Option.map_some]

theorem splitAt?_eq_some_iff :
    splitAt? text offset = some (front, back) ↔ text = front ++ back ∧ offset = byteLength front := by
  constructor
  · intro cut
    induction text, offset using splitAt?.induct generalizing front with
    | case1 text =>
      cases text <;> cases cut <;> exact ⟨rfl, rfl⟩
    | case2 offset => cases cut
    | case3 c rest offset fits ih =>
      rw [splitAt?, if_pos fits, Option.map_eq_some_iff] at cut
      obtain ⟨⟨before, after⟩, cut, same⟩ := cut
      cases same
      obtain ⟨rfl, size⟩ := ih cut
      exact ⟨rfl, by rw [byteLength_cons]; omega⟩
    | case4 c rest offset short =>
      rw [splitAt?, if_neg short] at cut
      cases cut
  · rintro ⟨rfl, rfl⟩
    exact splitAt?_byteLength front back

theorem slice?_append (front middle back : List Char) :
    slice? (front ++ (middle ++ back)) (byteLength front) (byteLength front + byteLength middle) =
      some middle := by
  rw [slice?, ← byteLength_append, ← List.append_assoc, splitAt?_byteLength]
  simp [splitAt?_byteLength]

/-- A text cannot be cut inside a character. -/
theorem splitAt?_inside (behind : byteLength front < offset)
    (short : offset < byteLength front + c.utf8Size) : splitAt? (front ++ c :: back) offset = none := by
  cases cut : splitAt? (front ++ c :: back) offset with
  | none => rfl
  | some parts =>
    obtain ⟨before, after⟩ := parts
    obtain ⟨whole, rfl⟩ := splitAt?_eq_some_iff.mp cut
    obtain ⟨more, rfl, ends⟩ | ⟨more, rfl, -⟩ := List.append_eq_append_iff.mp whole
    · cases more with
      | nil => simp at behind
      | cons first more =>
        obtain ⟨rfl, -⟩ := List.cons.inj ends
        rw [byteLength_append, byteLength_cons] at short
        omega
    · rw [byteLength_append] at behind
      omega

example : splitAt? ['a', 'é', 'b'] 2 = none := by decide

/-- In front of a byte of a character or behind its last one, the text can be cut in front of the
character. -/
theorem boundaryBefore_inside (behind : byteLength front < offset)
    (short : offset ≤ byteLength front + c.utf8Size) :
    boundaryBefore (front ++ c :: back) offset = byteLength front := by
  induction offset with
  | zero => omega
  | succ offset ih =>
    rw [boundaryBefore]
    by_cases here : offset = byteLength front
    · rw [here, splitAt?_byteLength, Option.isSome_some, if_pos rfl]
    · have later : byteLength front < offset := by omega
      rw [splitAt?_inside later (by omega), Option.isSome_none, if_neg Bool.false_ne_true,
        ih later (by omega)]

/-! ### Places -/

/-- The text can be cut at this byte. -/
def IsBoundary (text : List Char) (offset : Nat) : Prop :=
  ∃ front back, text = front ++ back ∧ offset = byteLength front

theorem IsBoundary.le {text : List Char} {offset : Nat} (cut : IsBoundary text offset) :
    offset ≤ byteLength text := by
  obtain ⟨front, back, rfl, rfl⟩ := cut
  rw [byteLength_append]
  omega

theorem byteLength_pos (full : text ≠ []) : 0 < byteLength text :=
  Nat.lt_of_lt_of_le (List.length_pos_iff.mpr full) (length_le_byteLength text)

theorem lt_byteLength_of_lt (short : offset < byteLength front + c.utf8Size) :
    offset < byteLength (front ++ c :: back) := by
  rw [byteLength_append, byteLength_cons]
  omega

theorem seek_beyond (far : byteLength text ≤ offset) : seek text offset = .beyond := by
  induction text generalizing offset with
  | nil => rfl
  | cons first rest ih =>
    have positive := first.utf8Size_pos
    rw [byteLength_cons] at far
    rw [seek.eq_3 _ _ _ (by omega), if_pos (by omega), ih (by omega)]

theorem seek_inside (behind : byteLength front < offset)
    (short : offset < byteLength front + c.utf8Size) :
    seek (front ++ c :: back) offset = .inside c := by
  induction front generalizing offset with
  | nil =>
    rw [byteLength_nil] at behind short
    rw [List.nil_append, seek.eq_3 _ _ _ (by omega), if_neg (by omega)]
  | cons first front ih =>
    rw [byteLength_cons] at behind short
    rw [List.cons_append, seek.eq_3 _ _ _ (by omega), if_pos (by omega),
      ih (by omega) (by omega)]

/-- A byte offset is at the end of the text or past it, or inside a character, or at the first byte
of one. -/
theorem place_cases (text : List Char) (offset : Nat) :
    byteLength text ≤ offset ∨
      (∃ front c back, text = front ++ c :: back ∧ byteLength front < offset ∧
        offset < byteLength front + c.utf8Size) ∨
      ∃ front c back, text = front ++ c :: back ∧ offset = byteLength front := by
  induction text generalizing offset with
  | nil => exact Or.inl (Nat.zero_le _)
  | cons first rest ih =>
    rcases Nat.lt_or_ge offset first.utf8Size with short | past
    · rcases Nat.eq_zero_or_pos offset with rfl | positive
      · exact Or.inr (Or.inr ⟨[], first, rest, rfl, rfl⟩)
      · exact Or.inr (Or.inl ⟨[], first, rest, rfl, positive, by simpa using short⟩)
    · obtain far | ⟨front, c, back, rfl, behind, short⟩ | ⟨front, c, back, rfl, here⟩ :=
        ih (offset - first.utf8Size)
      · exact Or.inl (by rw [byteLength_cons]; omega)
      · refine Or.inr (Or.inl ⟨first :: front, c, back, rfl, ?_, ?_⟩) <;>
          rw [byteLength_cons] <;> omega
      · exact Or.inr (Or.inr ⟨first :: front, c, back, rfl, by rw [byteLength_cons]; omega⟩)

end Lookahead.Text
