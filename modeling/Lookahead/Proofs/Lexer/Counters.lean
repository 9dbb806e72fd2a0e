import Lookahead.Proofs.Lexer.LineEnds

/-!
# Places in a machine

Going over a text adds at most as much to a line or a column as the text has bytes. So where a
position leaves room for the bytes that are left of the input, no counter overflows, and the places
are the same as without limits. Without that room the lines and columns may differ, but the index
does not, and it alone says where to go on.

Main statements: `Position.moves_advanceOverIn` and `Lexeme.moves_advanceIn`.
-/

namespace Lookahead

variable {K : Type} {counting : Counting} {input : List Char}

/-- The counters of the position can go on to the end of the input. -/
structure Room (counting : Counting) (input : List Char) (position : Position) : Prop where
  line : counting.Holds (position.line + (Text.byteLength input - position.index))
  column : counting.Holds (position.column + (Text.byteLength input - position.index))

/-- A run in a machine is at the place where it would be without limits, and there is room. -/
def Agree (counting : Counting) (input : List Char) (position place : Position) : Prop :=
  position = place ∧ Room counting input position

/-- What moving `position` comes to where `place` moves to `after` without limits: a place with the
same index, which agrees with `after` if `position` agrees with `place`. Unless they agree a counter
can overflow. -/
inductive Moves (counting : Counting) (input : List Char) (position place after : Position) :
    Except Overflow Position → Prop
  | stopped {overflow : Overflow} : counting = .checked → ¬ Agree counting input position place →
      Moves counting input position place after (.error overflow)
  | moved {next : Position} : next.index = after.index →
      (Agree counting input position place → Agree counting input next after) →
      Moves counting input position place after (.ok next)

variable {position place after later : Position}

theorem Moves.trans {next : Position} {moved : Except Overflow Position}
    (moves : Moves counting input position place after (.ok next))
    (moves' : Moves counting input next after later moved) :
    Moves counting input position place later moved := by
  obtain _ | ⟨-, agree⟩ := moves
  cases moves' with
  | stopped checks tight => exact .stopped checks fun both => tight (agree both)
  | moved index agree' => exact .moved index fun both => agree' (agree both)

theorem Moves.index {next : Position}
    (moves : Moves counting input position place after (.ok next)) : next.index = after.index := by
  cases moves
  assumption

theorem Moves.bind {moved : Except Overflow Position}
    {onward : Position → Except Overflow Position}
    (moves : Moves counting input position place after moved)
    (moves' : ∀ next : Position, next.index = after.index →
      Moves counting input next after later (onward next)) :
    Moves counting input position place later (moved >>= onward) := by
  cases moved with
  | error overflow =>
    obtain ⟨checks, tight⟩ := moves
    exact .stopped checks tight
  | ok next => exact moves.trans (moves' next moves.index)

namespace Position

/-- The place behind a character of so many bytes, which ends a line or not. -/
def pass (position : Position) (bytes : Nat) (ends : Bool) : Position :=
  if ends then ⟨position.index + bytes, position.line + 1, 1⟩
  else ⟨position.index + bytes, position.line, position.column + 1⟩

theorem advance_eq_pass (position : Position) (lineBreak c : Char) :
    position.advance lineBreak c = position.pass c.utf8Size (c = lineBreak) := by
  simp [advance, pass]

theorem index_pass (position : Position) (bytes : Nat) (ends : Bool) :
    (position.pass bytes ends).index = position.index + bytes := by
  cases ends <;> rfl

/-- The place behind a character with the next one in sight. A carriage return in front of a line
feed has a byte only. -/
def passLineEnd (position : Position) (c : Char) (following : Option Char) : Position :=
  if c = '\r' && following = some '\n' then
    { position with index := position.index + c.utf8Size }
  else position.pass c.utf8Size (c = '\r' || c = '\n')

theorem index_passLineEnd (position : Position) (c : Char) (following : Option Char) :
    (position.passLineEnd c following).index = position.index + c.utf8Size := by
  rw [passLineEnd]
  split
  · rfl
  · exact index_pass _ _ _

theorem advanceLineEnds_cons (position : Position) (c : Char) (rest : List Char) :
    position.advanceLineEnds (c :: rest) =
      (position.passLineEnd c rest.head?).advanceLineEnds rest := by
  rw [passLineEnd]
  by_cases pair : c = '\r' ∧ rest.head? = some '\n'
  · obtain ⟨rfl, feed⟩ := pair
    obtain ⟨rest, rfl⟩ := List.head?_eq_some_iff.mp feed
    rfl
  · have alone : ∀ others, c = '\r' → rest = '\n' :: others → False := by
      rintro others rfl rfl
      exact pair ⟨rfl, rfl⟩
    have unpaired : ¬ (c = '\r' && rest.head? = some '\n') = true := by simpa using pair
    rw [advanceLineEnds.eq_3 _ _ _ alone, if_neg unpaired, pass]
    split <;> rfl

theorem moves_passIn (held : counting.Holds (Text.byteLength input)) {bytes : Nat}
    (positive : 0 < bytes) (same : position.index = place.index)
    (inside : position.index + bytes ≤ Text.byteLength input) (ends : Bool) :
    Moves counting input position place (place.pass bytes ends)
      (position.passIn counting bytes ends) := by
  -- Lines and columns grow by one, for which there is room if there is room for the bytes.
  have grows : ∀ count, counting.Holds (count + (Text.byteLength input - position.index)) →
      counting.Holds (count + 1) := fun count room => room.mono (by omega)
  have index : position.index + bytes = (place.pass bytes ends).index := by
    rw [index_pass, same]
  rw [passIn, Counting.add_eq (held.mono inside)]
  cases ends with
  | false =>
    cases sum : counting.add position.column 1 with
    | error overflow =>
      obtain ⟨checks, tight⟩ := Counting.of_add_eq_error sum
      exact .stopped checks fun ⟨_, room⟩ => tight (grows _ room.column)
    | ok column =>
      refine .moved index ?_
      rintro ⟨rfl, room⟩
      rw [Counting.add_eq (grows _ room.column)] at sum
      cases sum
      exact ⟨rfl, room.line.mono (by simp; omega), room.column.mono (by simp; omega)⟩
  | true =>
    cases sum : counting.add position.line 1 with
    | error overflow =>
      obtain ⟨checks, tight⟩ := Counting.of_add_eq_error sum
      exact .stopped checks fun ⟨_, room⟩ => tight (grows _ room.line)
    | ok line =>
      refine .moved index ?_
      rintro ⟨rfl, room⟩
      rw [Counting.add_eq (grows _ room.line)] at sum
      cases sum
      exact ⟨rfl, room.line.mono (by simp; omega), held.mono (by simp; omega)⟩

theorem moves_advanceIn (held : counting.Holds (Text.byteLength input))
    (same : position.index = place.index) (lineBreak : Char) {c : Char}
    (inside : position.index + c.utf8Size ≤ Text.byteLength input) :
    Moves counting input position place (place.advance lineBreak c)
      (position.advanceIn counting lineBreak c) := by
  rw [advance_eq_pass]
  exact moves_passIn held c.utf8Size_pos same inside _

theorem moves_advanceOverIn (held : counting.Holds (Text.byteLength input))
    (same : position.index = place.index) (lineBreak : Char) {text : List Char}
    (inside : position.index + Text.byteLength text ≤ Text.byteLength input) :
    Moves counting input position place (place.advanceOver lineBreak text)
      (position.advanceOverIn counting lineBreak text) := by
  induction text generalizing position place with
  | nil => exact .moved same id
  | cons c rest ih =>
    rw [Text.byteLength_cons] at inside
    rw [advanceOver_cons]
    refine (moves_advanceIn held same lineBreak (by omega)).bind fun next index => ?_
    refine ih index ?_
    rw [index, index_advance]
    omega

theorem moves_passLineEndIn (held : counting.Holds (Text.byteLength input))
    (same : position.index = place.index) {c : Char}
    (inside : position.index + c.utf8Size ≤ Text.byteLength input) (following : Option Char) :
    Moves counting input position place (place.passLineEnd c following)
      (position.passLineEndIn counting c following) := by
  rw [passLineEnd, passLineEndIn]
  split
  · rw [Counting.add_eq (held.mono inside)]
    refine .moved (by simp [same]) ?_
    rintro ⟨rfl, room⟩
    exact ⟨rfl, room.line.mono (by simp; omega), room.column.mono (by simp; omega)⟩
  · exact moves_passIn held c.utf8Size_pos same inside _

theorem moves_advanceLineEndsIn (held : counting.Holds (Text.byteLength input))
    (same : position.index = place.index) {text : List Char}
    (inside : position.index + Text.byteLength text ≤ Text.byteLength input) :
    Moves counting input position place (place.advanceLineEnds text)
      (position.advanceLineEndsIn counting text) := by
  induction text generalizing position place with
  | nil => exact .moved same id
  | cons c rest ih =>
    rw [Text.byteLength_cons] at inside
    rw [advanceLineEnds_cons]
    refine (moves_passLineEndIn held same (by omega) rest.head?).bind fun next index => ?_
    refine ih index ?_
    rw [index, index_passLineEnd]
    omega

end Position

theorem Lexeme.moves_advanceIn (lexeme : Lexeme K) (held : counting.Holds (Text.byteLength input))
    {position place : Position} (same : position.index = place.index) {text : List Char}
    (inside : position.index + Text.byteLength text ≤ Text.byteLength input) :
    Moves counting input position place (lexeme.advance place text)
      (lexeme.advanceIn counting position text) := by
  rw [advance, advanceIn]
  split
  · exact Position.moves_advanceLineEndsIn held same inside
  · exact Position.moves_advanceOverIn held same '\n' inside

end Lookahead
