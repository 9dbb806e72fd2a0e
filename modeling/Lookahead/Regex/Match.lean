import Lookahead.Regex.Program

/-!
# Matching regular expressions

Of all matches the leftmost one counts, and of those the one that the expression prefers: the
first alternative before the second one, one more repetition before none if the repetition is
greedy. All ways to match are followed at the same time, in the order of preference, one
character after the other. A way is the place of an instruction; of two ways with the same
instruction at the same place of the text only the preferred one is followed.
-/

namespace Lookahead

namespace Program

/-- A way that waits for a character of the set, and the instruction behind it. -/
structure Thread where
  set : CharSet
  next : Nat
  deriving DecidableEq, Repr

/-- What was found at a place of the text: the ways that wait for a character, the last one in
front, and whether there is a match that is preferred to all other ways. For each instruction
`entered` has the last place at which it was reached, counted from one. -/
structure Frontier where
  entered : Array Nat
  threads : List Thread := []
  ended : Bool := false

/-- Follows ways without reading a character, at the place number `place` between the characters
`before` and `after`. At most `bound` instructions are looked at. -/
def follow (code : Array Instruction) (place : Nat) (before after : Option Char) :
    Nat → List Nat → Frontier → Frontier
  | 0, _, frontier => frontier
  | _, [], frontier => frontier
  | bound + 1, here :: ways, frontier =>
    if frontier.entered.getD here 0 = place then
      -- A preferred way came by here and goes on in the same manner.
      follow code place before after bound ways frontier
    else
      let frontier := { frontier with entered := frontier.entered.setIfInBounds here place }
      match code[here]? with
      | none => follow code place before after bound ways frontier
      | some .done => { frontier with ended := true }
      | some (.read set next) =>
        follow code place before after bound ways
          { frontier with threads := ⟨set, next⟩ :: frontier.threads }
      | some (.check assertion next) =>
        follow code place before after bound
          (if assertion.holds before after then next :: ways else ways) frontier
      | some (.branch first second) =>
        follow code place before after bound (first :: second :: ways) frontier

/-- How many instructions can be looked at at one place: every one is followed once, and there are
at most two ways that lead on from it and one that comes from the place in front. -/
def bound (program : Program) : Nat := 3 * program.code.size + 1

/-- How many characters the match takes, where `read` were read, `best` is the length of the best
match so far, `ways` are the ways to go on and `entered` the places at which instructions were
reached. -/
def advance (program : Program) (read : Nat) (best : Option Nat) (before : Option Char)
    (ways : List Nat) (entered : Array Nat) : List Char → Option Nat
  | [] =>
    if (follow program.code (read + 1) before none program.bound ways { entered }).ended then
      some read
    else best
  | c :: rest =>
    let frontier :=
      follow program.code (read + 1) before (some c) program.bound ways { entered }
    -- A longer match that is found later comes from a way that is preferred to this end.
    let best := if frontier.ended then some read else best
    let ways := frontier.threads.foldl
      (fun ways thread => if thread.set.contains c then thread.next :: ways else ways) []
    if ways.isEmpty then best
    else advance program (read + 1) best (some c) ways frontier.entered rest

/-- The length of the match at the start of `text`, behind the character `before`. -/
def matchLength? (program : Program) (before : Option Char) (text : List Char) : Option Nat :=
  program.advance 0 none before [program.start] (.replicate program.code.size 0) text

/-- Looks for the first place from which there is a match, having passed over `skipped`
characters. If the program is anchored, only the first place is looked at. -/
def findFrom (program : Program) (anchored : Bool) (skipped : Nat) (before : Option Char) :
    List Char → Option (Nat × Nat)
  | [] => (program.matchLength? before []).map fun length => (skipped, length)
  | c :: rest =>
    match program.matchLength? before (c :: rest) with
    | some length => some (skipped, length)
    | none =>
      if anchored then none else findFrom program anchored (skipped + 1) (some c) rest

end Program

/-- An expression that is ready for being matched. -/
structure Searcher where
  program : Program
  /-- Whether a match can only be at the start of the text. -/
  anchored : Bool

/-- The expression, ready for being matched. -/
def Regex.searcher (regex : Regex) : Searcher := ⟨regex.program, regex.isAnchored⟩

namespace Searcher

/-- The leftmost match in `text`: how many characters are in front of it, and how many it
takes. -/
def find? (searcher : Searcher) (text : List Char) : Option (Nat × Nat) :=
  searcher.program.findFrom searcher.anchored 0 none text

/-- Whether there is a match somewhere in the empty text. -/
def matchesEmpty (searcher : Searcher) : Bool := (searcher.find? []).isSome

end Searcher

end Lookahead
