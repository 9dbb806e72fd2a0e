import Lookahead.Text.CharSet

/-!
# Encodings of sets of characters

In UTF-8 a character is a sequence of bytes. The sequences of all characters of a set are listed as
sequences of ranges of bytes, such that a sequence of ranges stands for all sequences of bytes that
take the first one from the first range, the second one from the second range, and so on.
-/

namespace Lookahead.Encoding

/-- The first and the last byte of a range. -/
abbrev ByteRange := Nat × Nat

/-- The ranges of code points whose encodings have the same number of bytes. Surrogates have no
encoding. -/
def zones : List CharRange := [
  (0, 0x7f), (0x80, 0x7ff), (0x800, 0xd7ff), (0xe000, 0xffff), (0x10000, 0x10ffff)]

/-- The bytes that encode a code point. -/
def bytes (code : Nat) : List Nat :=
  if code < 0x80 then [code]
  else if code < 0x800 then [0xc0 + code / 64, 0x80 + code % 64]
  else if code < 0x10000 then
    [0xe0 + code / 4096, 0x80 + code / 64 % 64, 0x80 + code % 64]
  else
    [0xf0 + code / 262144, 0x80 + code / 4096 % 64, 0x80 + code / 64 % 64, 0x80 + code % 64]

/-- The code points from `first` to `last` in ranges that are in one block or made of whole blocks,
for each of the block sizes `sizes`, which ascend. -/
def blocks : List Nat → Nat → Nat → List CharRange
  | [], first, last => [(first, last)]
  | size :: bigger, first, last =>
    if first / size = last / size then [(first, last)]
    else
      -- Whole blocks go from `start` up to `stop`.
      let start := if first % size = 0 then first else (first / size + 1) * size
      let stop := if last % size + 1 = size then last + 1 else last / size * size
      let front := if first < start then [(first, start - 1)] else []
      let back := if stop ≤ last then [(stop, last)] else []
      front ++ (if start < stop then blocks bigger start (stop - 1) else []) ++ back

/-- How many characters differ only in the last byte, in the last two bytes, and in the last
three. -/
def blockSizes : List Nat := [64, 4096, 262144]

/-- The ranges of bytes in which the encodings from `first` to `last` are. -/
def byteRanges (range : CharRange) : List ByteRange := (bytes range.1).zip (bytes range.2)

/-- The encodings of the characters in a set, in ascending order. -/
def sequences (set : CharSet) : List (List ByteRange) :=
  (CharSet.overlaps set.ranges zones).flatMap fun (first, last) =>
    if last < 0x80 then [[(first, last)]]
    else (blocks blockSizes first last).map byteRanges

end Lookahead.Encoding
