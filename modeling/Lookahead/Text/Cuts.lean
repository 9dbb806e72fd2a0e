import Lookahead.Text.Basic

/-!
# Cutting a text at bytes

A text can be cut at a byte only if a character begins there or the text ends there. Cutting it
elsewhere has no result, so that what depends on a cut has none either.
-/

namespace Lookahead.Text

/-- The parts of a text in front of byte `offset` and behind it, if a character begins there or the
text ends there. -/
def splitAt? : List Char → Nat → Option (List Char × List Char)
  | text, 0 => some ([], text)
  | [], _ + 1 => none
  | c :: rest, offset + 1 =>
    if c.utf8Size ≤ offset + 1 then
      (splitAt? rest (offset + 1 - c.utf8Size)).map fun (front, back) => (c :: front, back)
    else none

/-- The part of a text from byte `first` up to byte `last`, if the text can be cut at both and they
are in this order. -/
def slice? (text : List Char) (first last : Nat) : Option (List Char) := do
  let (front, _) ← splitAt? text last
  let (_, middle) ← splitAt? front first
  return middle

/-- The last byte in front of `offset` at which the text can be cut. -/
def boundaryBefore (text : List Char) : Nat → Nat
  | 0 => 0
  | offset + 1 => if (splitAt? text offset).isSome then offset else boundaryBefore text offset

end Lookahead.Text
