/-!
# Texts as lists of characters

A text that is read is a list of characters, while a place in it is a count of UTF-8 bytes.
Two functions lead from a byte offset to the characters: `splitAtByte` cuts a text there, and
`seek` says whether the offset is between two characters, inside one, or at or past the end.
-/

namespace Lookahead.Text

/-- The number of bytes that `text` takes in UTF-8. -/
def byteLength : List Char → Nat
  | [] => 0
  | c :: rest => c.utf8Size + byteLength rest

@[simp] theorem byteLength_nil : byteLength [] = 0 := rfl

@[simp] theorem byteLength_cons (c : Char) (rest : List Char) :
    byteLength (c :: rest) = c.utf8Size + byteLength rest := rfl

@[simp] theorem byteLength_append (front back : List Char) :
    byteLength (front ++ back) = byteLength front + byteLength back := by
  induction front with
  | nil => simp
  | cons c rest ih => simp [ih, Nat.add_assoc]

/-- The characters that lie wholly in front of byte `index`, and all the others. -/
def splitAtByte : List Char → Nat → List Char × List Char
  | [], _ => ([], [])
  | c :: rest, index =>
    if c.utf8Size ≤ index then
      let (before, after) := splitAtByte rest (index - c.utf8Size)
      (c :: before, after)
    else
      ([], c :: rest)

theorem splitAtByte_append (text : List Char) (index : Nat) :
    (splitAtByte text index).1 ++ (splitAtByte text index).2 = text := by
  induction text generalizing index with
  | nil => rfl
  | cons c rest ih =>
    unfold splitAtByte
    split
    · simp [ih]
    · rfl

/-- Where a byte offset leads in a text. -/
inductive Place where
  /-- At the end of the text or past it. -/
  | beyond
  /-- Inside the bytes of the character `c`. -/
  | inside (c : Char)
  /-- In front of `rest`, which is not empty. -/
  | before (rest : List Char)
  deriving DecidableEq, Repr

/-- Finds the place of byte `index` in a text. -/
def seek : List Char → Nat → Place
  | [], _ => .beyond
  | c :: rest, 0 => .before (c :: rest)
  | c :: rest, index =>
    if c.utf8Size ≤ index then seek rest (index - c.utf8Size) else .inside c

/-- The text without the carriage returns at its end. -/
def trimReturns (text : List Char) : List Char :=
  (text.reverse.dropWhile (· == '\r')).reverse

/-- The pieces of a text between the occurrences of `lineBreak`; there is at least one. -/
def lines (lineBreak : Char) : List Char → List (List Char)
  | [] => [[]]
  | c :: rest =>
    if c = lineBreak then [] :: lines lineBreak rest
    else
      match lines lineBreak rest with
      | [] => [[c]]
      | line :: others => (c :: line) :: others

/-- The line around the place between `before` and `after`, without the carriage returns at
its end. -/
def lineAround (lineBreak : Char) (before after : List Char) : List Char :=
  trimReturns <|
    (before.reverse.takeWhile (· != lineBreak)).reverse ++ after.takeWhile (· != lineBreak)

/-- `strings` joined by line feeds. -/
def joinLines (strings : List String) : String := "\n".intercalate strings

end Lookahead.Text
