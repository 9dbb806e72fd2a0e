/-!
# Sets of characters

A set of characters is the list of the ranges of its code points, in ascending order and with a gap
between any two of them. The usual operations keep that order, so each takes one pass over the
ranges.

The code points of surrogates are no characters. They have no effect on what a set contains, but
the character in front of them and the one behind them follow each other.
-/

namespace Lookahead

/-- The first and the last code point of a range. -/
abbrev CharRange := Nat × Nat

/-- A set of characters, as ranges of code points in ascending order. -/
structure CharSet where
  ranges : List CharRange
  deriving DecidableEq, Repr

namespace CharSet

/-- The last code point. -/
def lastCode : Nat := 0x10ffff

/-- The code point behind `n`. -/
def after (n : Nat) : Nat := if n = 0xd7ff then 0xe000 else n + 1

/-- The code point in front of `n`. -/
def before (n : Nat) : Nat := if n = 0xe000 then 0xd7ff else n - 1

/-! ### Membership -/

/-- Whether `code` is in one of `ranges`, which are in ascending order. -/
def inRanges (code : Nat) : List CharRange → Bool
  | [] => false
  | (first, last) :: rest =>
    if code < first then false else code ≤ last || inRanges code rest

/-- Whether `c` is in the set. -/
def contains (set : CharSet) (c : Char) : Bool := inRanges c.toNat set.ranges

/-! ### Sets from ranges -/

/-- The set with no character. -/
def empty : CharSet := ⟨[]⟩

/-- The set of all characters. -/
def full : CharSet := ⟨[(0, lastCode)]⟩

/-- The characters from `first` to `last`, both included. -/
def range (first last : Char) : CharSet := ⟨[(first.toNat, last.toNat)]⟩

/-- The set of just one character. -/
def single (c : Char) : CharSet := range c c

/-- The range from `first` to `last` and the ranges behind it, which start no earlier, with those
that overlap or meet made one. -/
def joinFrom (first last : Nat) : List CharRange → List CharRange
  | [] => [(first, last)]
  | (nextFirst, nextLast) :: rest =>
    if nextFirst ≤ last + 1 then joinFrom first (max last nextLast) rest
    else (first, last) :: joinFrom nextFirst nextLast rest

/-- Ranges in ascending order of their starts, with those that overlap or meet made one. -/
def join : List CharRange → List CharRange
  | [] => []
  | (first, last) :: rest => joinFrom first last rest

/-- The set of the code points `codes`. -/
def ofCodes (codes : List Nat) : CharSet :=
  ⟨join ((codes.mergeSort (· ≤ ·)).map fun code => (code, code))⟩

/-! ### Operations -/

/-- Two lists of ranges as one, in ascending order of their starts. -/
def merge : List CharRange → List CharRange → List CharRange
  | [], others => others
  | range :: rest, others =>
    others.takeWhile (·.1 < range.1) ++ range :: merge rest (others.dropWhile (·.1 < range.1))

/-- The characters in one of the sets or both. -/
def union (a b : CharSet) : CharSet := ⟨join (merge a.ranges b.ranges)⟩

/-- The characters in one of the sets. -/
def unions (sets : List CharSet) : CharSet := sets.foldl union empty

/-- The parts of `ranges` that are in `others` too. -/
def overlaps : List CharRange → List CharRange → List CharRange
  | [], _ => []
  | (first, last) :: rest, others =>
    let others := others.dropWhile (·.2 < first)
    (others.takeWhile (·.1 ≤ last)).map
      (fun (otherFirst, otherLast) => (max first otherFirst, min last otherLast)) ++
      overlaps rest others

/-- The characters that are in both sets. -/
def inter (a b : CharSet) : CharSet := ⟨overlaps a.ranges b.ranges⟩

/-- The range from `first` to `last` without the ranges that overlap it. -/
def cut (first last : Nat) : List CharRange → List CharRange
  | [] => if first ≤ last then [(first, last)] else []
  | (holeFirst, holeLast) :: rest =>
    let behind := cut (after holeLast) last rest
    if first < holeFirst then (first, before holeFirst) :: behind else behind

/-- The parts of `ranges` that are not in `others`. -/
def remainders : List CharRange → List CharRange → List CharRange
  | [], _ => []
  | (first, last) :: rest, others =>
    let others := others.dropWhile (·.2 < first)
    cut first last (others.takeWhile (·.1 ≤ last)) ++ remainders rest others

/-- The characters of the first set that are not in the second one. -/
def minus (a b : CharSet) : CharSet := ⟨remainders a.ranges b.ranges⟩

/-- The characters that are in just one of the sets. -/
def either (a b : CharSet) : CharSet := (a.union b).minus (a.inter b)

/-- What is between ranges and behind them, where `next` is the code point behind the range in
front. Two ranges can only meet at the surrogates, and then the character at the end of the one
and that at the start of the other one are taken for what is between them. -/
def gaps (next : Nat) : List CharRange → List CharRange
  | [] => if next ≤ lastCode then [(next, lastCode)] else []
  | (first, last) :: rest =>
    (min next (before first), max next (before first)) :: gaps (after last) rest

/-- The characters that are not in the set. -/
def complement (set : CharSet) : CharSet :=
  match set.ranges with
  | (0, last) :: rest => ⟨gaps (after last) rest⟩
  | ranges => ⟨gaps 0 ranges⟩

/-! ### Sets from tables -/

/-- Where a range of a table starts, and whether it has only every second code point. -/
structure TableStart where
  first : Nat
  alternate : Bool

/-- The ranges that an entry of a table with the last code point `last` stands for. -/
def tableEntry (start : Option TableStart) (last : Nat) : List CharRange :=
  match start with
  | none => [(last, last)]
  | some ⟨first, false⟩ => [(first, last)]
  | some ⟨first, true⟩ =>
    (List.range ((last - first) / 2 + 1)).map fun i => (first + 2 * i, first + 2 * i)

/-- The value of a digit of a table, which is hexadecimal and in upper case. -/
def tableDigit (c : Char) : Nat :=
  if c ≤ '9' then c.toNat - '0'.toNat else c.toNat - 'A'.toNat + 10

/-- The ranges in the text of a table, where `value` is the number that was read so far, and
`start` the start of the range that it belongs to. -/
def readTable (start : Option TableStart) (value : Option Nat) : List Char → List CharRange
  | [] => (value.map (tableEntry start)).getD []
  | c :: rest =>
    if c = ' ' || c = '\n' then
      match value with
      | some last => tableEntry start last ++ readTable none none rest
      | none => readTable start none rest
    else if c = '-' then readTable (some ⟨value.getD 0, false⟩) none rest
    else if c = '/' then readTable (some ⟨value.getD 0, true⟩) none rest
    else readTable start (some (value.getD 0 * 16 + tableDigit c)) rest

/-- The set that a table lists: code points in ascending order, separated by blanks or line ends,
such as `AA` for one of them, `41-5A` for a range, and `100/12E` for every second code point of a
range. -/
def ofTable (table : String) : CharSet := ⟨readTable none none table.toList⟩

end CharSet

end Lookahead
