import Lookahead.Counting

/-!
# Positions

A position names a place in a text three times over: by the bytes of UTF-8 in front of it, by
its line and by its column. Moving a position over a text is a left fold over the characters,
so moving over two texts in turn is moving over both joined together.

Positions count without a limit. In the memory of a machine the three numbers are counters, and
there a position is moved step by step until a counter overflows.
-/

namespace Lookahead

/-- A place in a text. `index` counts bytes from zero, `line` and `column` count from one. -/
structure Position where
  index : Nat
  line : Nat
  column : Nat
  deriving DecidableEq, Repr, Ord

namespace Position

/-- The place in front of the first character. -/
def start : Position := ⟨0, 1, 1⟩

/-- The place behind the character `c`, where `lineBreak` is the character that ends a line. -/
def advance (position : Position) (lineBreak c : Char) : Position :=
  if c = lineBreak then
    ⟨position.index + c.utf8Size, position.line + 1, 1⟩
  else
    ⟨position.index + c.utf8Size, position.line, position.column + 1⟩

/-- The place behind `text`. -/
def advanceOver (position : Position) (lineBreak : Char) (text : List Char) : Position :=
  text.foldl (·.advance lineBreak) position

/-- The place behind a character of so many bytes, which ends a line or not, for counters. -/
def passIn (counting : Counting) (position : Position) (bytes : Nat) (ends : Bool) :
    Except Overflow Position := do
  let index ← counting.add position.index bytes
  if ends then
    return ⟨index, ← counting.add position.line 1, 1⟩
  else
    return ⟨index, position.line, ← counting.add position.column 1⟩

/-- The place behind the character `c`, for counters. -/
def advanceIn (counting : Counting) (position : Position) (lineBreak c : Char) :
    Except Overflow Position :=
  position.passIn counting c.utf8Size (c = lineBreak)

/-- The place behind `text`, for counters. -/
def advanceOverIn (counting : Counting) (position : Position) (lineBreak : Char) :
    List Char → Except Overflow Position
  | [] => .ok position
  | c :: rest => do
    let next ← position.advanceIn counting lineBreak c
    advanceOverIn counting next lineBreak rest

/-- Positions are compared by index, then by line, then by column. -/
instance : LT Position := ltOfOrd

instance (a b : Position) : Decidable (a < b) :=
  inferInstanceAs (Decidable (compare a b = .lt))

instance : ToString Position :=
  ⟨fun position => s!"line {position.line}, column {position.column}"⟩

@[simp] theorem advanceOver_nil (position : Position) (lineBreak : Char) :
    position.advanceOver lineBreak [] = position := rfl

@[simp] theorem advanceOver_cons (position : Position) (lineBreak c : Char) (rest : List Char) :
    position.advanceOver lineBreak (c :: rest) =
      (position.advance lineBreak c).advanceOver lineBreak rest := rfl

theorem advanceOver_append (position : Position) (lineBreak : Char) (front back : List Char) :
    position.advanceOver lineBreak (front ++ back) =
      (position.advanceOver lineBreak front).advanceOver lineBreak back :=
  List.foldl_append

@[simp] theorem index_advance (position : Position) (lineBreak c : Char) :
    (position.advance lineBreak c).index = position.index + c.utf8Size := by
  unfold advance
  split <;> rfl

end Position

end Lookahead
