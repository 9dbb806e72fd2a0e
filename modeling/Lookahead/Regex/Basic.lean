import Lookahead.Text.CharSet

/-!
# Regular expressions

The expressions that lexemes are described by, and the conditions on a place in the text that they
can contain. Expressions are put together by functions that simplify them: `Regex.sequence`,
`Regex.choice` and `Regex.repetition` put texts in a row together, make one set of alternatives
that are single characters, take out what all alternatives start with, and leave out what matches
only the empty text as far as it can be left out. What an expression matches is said in
`Lookahead.Regex.Match`.
-/

namespace Lookahead

/-! ### Conditions -/

/-- Where a word meets what is no word. -/
inductive WordEdge where
  /-- Either end of a word. -/
  | boundary
  /-- Neither end of a word. -/
  | noBoundary
  | start
  | finish
  /-- No word character in front. -/
  | startHalf
  /-- No word character behind. -/
  | finishHalf
  deriving DecidableEq, Repr

/-- A condition on the characters around a place. -/
inductive Assertion where
  | textStart
  | textEnd
  /-- The start of the text or of a line, lines ending at line feeds. -/
  | lineStart
  /-- The end of the text or of a line, lines ending at line feeds. -/
  | lineEnd
  /-- The start of the text or of a line, lines ending at a carriage return, a line feed or
  both. -/
  | returnLineStart
  /-- The end of the text or of a line, lines ending at a carriage return, a line feed or
  both. -/
  | returnLineEnd
  /-- An edge of a word, words being made of `chars`. -/
  | word (edge : WordEdge) (chars : CharSet)
  deriving DecidableEq, Repr

/-- Whether a word with a character of it in front (`before`) or behind (`after`) has the edge
there. -/
def WordEdge.holds (edge : WordEdge) (before after : Bool) : Bool :=
  match edge with
  | .boundary => before != after
  | .noBoundary => before == after
  | .start => !before && after
  | .finish => before && !after
  | .startHalf => !before
  | .finishHalf => !after

/-- Whether the condition holds between the characters `before` and `after`; the text starts or
ends where there is none. -/
def Assertion.holds (before after : Option Char) : Assertion → Bool
  | .textStart => before.isNone
  | .textEnd => after.isNone
  | .lineStart => before.isNone || before = some '\n'
  | .lineEnd => after.isNone || after = some '\n'
  | .returnLineStart =>
    before.isNone || before = some '\n' || (before = some '\r' && after != some '\n')
  | .returnLineEnd =>
    after.isNone || after = some '\r' || (after = some '\n' && before != some '\r')
  | .word edge chars => edge.holds (before.any chars.contains) (after.any chars.contains)

/-! ### Expressions -/

/-- A regular expression. -/
inductive Regex where
  /-- The empty text. -/
  | empty
  /-- The text, which is not empty. -/
  | literal (text : List Char)
  /-- One character of the set. -/
  | oneOf (set : CharSet)
  /-- The empty text where the condition holds. -/
  | check (assertion : Assertion)
  /-- The body, as the group with that number. -/
  | captured (number : Nat) (body : Regex)
  /-- The body at least `low` and at most `high` times, as often as it can be if `greedy`, else
  as seldom as it can be. -/
  | repeated (body : Regex) (low : Nat) (high : Option Nat) (greedy : Bool)
  /-- The items one after the other. -/
  | concat (items : List Regex)
  /-- One of the items, the first one that it can be. -/
  | alternatives (items : List Regex)

namespace Regex

mutual

/-- Whether two expressions are written in the same way. -/
def same : Regex → Regex → Bool
  | .empty, .empty => true
  | .literal a, .literal b => a == b
  | .oneOf a, .oneOf b => a == b
  | .check a, .check b => a == b
  | .captured m a, .captured n b => m == n && same a b
  | .repeated a low high greedy, .repeated b low' high' greedy' =>
    low == low' && high == high' && greedy == greedy' && same a b
  | .concat as, .concat bs => sameAll as bs
  | .alternatives as, .alternatives bs => sameAll as bs
  | _, _ => false

/-- Whether expressions are written in the same way, one after the other. -/
def sameAll : List Regex → List Regex → Bool
  | [], [] => true
  | a :: as, b :: bs => same a b && sameAll as bs
  | _, _ => false

end

mutual

/-- Whether the expression matches no text but the empty one. -/
def isZeroWidth : Regex → Bool
  | .empty => true
  | .literal _ => false
  | .oneOf _ => false
  | .check _ => true
  | .captured _ body => isZeroWidth body
  | .repeated body _ _ _ => isZeroWidth body
  | .concat items => allZeroWidth items
  | .alternatives items => allZeroWidth items

/-- Whether no expression matches a text but the empty one. -/
def allZeroWidth : List Regex → Bool
  | [] => true
  | item :: rest => isZeroWidth item && allZeroWidth rest

end

mutual

/-- The least number of characters that a match takes; there is none if a part of the expression
is a set with no character. -/
def minLength : Regex → Option Nat
  | .empty => some 0
  | .literal text => some text.length
  | .oneOf set => if set.ranges.isEmpty then none else some 1
  | .check _ => some 0
  | .captured _ body => minLength body
  | .repeated body low _ _ => (minLength body).map (low * ·)
  | .concat items => totalLength items
  | .alternatives items => leastLength items

/-- The least number of characters that matches of all expressions in a row take. -/
def totalLength : List Regex → Option Nat
  | [] => some 0
  | item :: rest =>
    match minLength item, totalLength rest with
    | some a, some b => some (a + b)
    | _, _ => none

/-- The least number of characters that a match of one of the expressions takes. -/
def leastLength : List Regex → Option Nat
  | [] => none
  | [only] => minLength only
  | item :: rest =>
    match minLength item, leastLength rest with
    | some a, some b => some (min a b)
    | _, _ => none

end

/-- Whether every match takes a character. -/
def takesChar (regex : Regex) : Bool :=
  match minLength regex with
  | some length => 0 < length
  | none => false

mutual

/-- Whether a match can only be at the start of the text. -/
def isAnchored : Regex → Bool
  | .check .textStart => true
  | .captured _ body => isAnchored body
  | .repeated body low _ _ => 0 < low && isAnchored body
  | .concat items => firstAnchored items
  | .alternatives items => allAnchored items
  | _ => false

/-- Whether one of the expressions can only match at the start of the text, those in front of it
taking no character. -/
def firstAnchored : List Regex → Bool
  | [] => false
  | item :: rest => isAnchored item || (isZeroWidth item && firstAnchored rest)

/-- Whether all expressions can only match at the start of the text. -/
def allAnchored : List Regex → Bool
  | [] => true
  | item :: rest => isAnchored item && allAnchored rest

end

mutual

/-- Whether a match can only be at the end of the text. -/
def isEndAnchored : Regex → Bool
  | .check .textEnd => true
  | .captured _ body => isEndAnchored body
  | .repeated body low _ _ => 0 < low && isEndAnchored body
  | .concat items => lastEndAnchored items
  | .alternatives items => allEndAnchored items
  | _ => false

/-- Whether one of the expressions can only match at the end of the text, those behind it taking
no character. -/
def lastEndAnchored : List Regex → Bool
  | [] => false
  | item :: rest => lastEndAnchored rest || (allZeroWidth rest && isEndAnchored item)

/-- Whether all expressions can only match at the end of the text. -/
def allEndAnchored : List Regex → Bool
  | [] => true
  | item :: rest => isEndAnchored item && allEndAnchored rest

end

/-! ### Putting expressions together -/

/-- One character of the set, a text if there is just one. -/
def ofSet (set : CharSet) : Regex :=
  match set.ranges with
  | [(first, last)] => if first = last then .literal [Char.ofNat first] else .oneOf set
  | _ => .oneOf set

/-- The parts of a sequence. -/
def parts : Regex → List Regex
  | .concat items => items
  | regex => [regex]

/-- Puts a part in front of others. -/
def prepend (part : Regex) (others : List Regex) : List Regex :=
  match part, others with
  | .empty, others => others
  | .literal text, .literal more :: others => .literal (text ++ more) :: others
  | part, others => part :: others

/-- The expressions one after the other. -/
def sequence (items : List Regex) : Regex :=
  match (items.flatMap parts).foldr prepend [] with
  | [] => .empty
  | [only] => only
  | parts => .concat parts

/-- The options of a choice. -/
def options : Regex → List Regex
  | .alternatives items => items
  | regex => [regex]

/-- The code point of a text of one character. -/
def code? : Regex → Option Nat
  | .literal [c] => some c.toNat
  | _ => none

/-- The set of an expression that is one. -/
def set? : Regex → Option CharSet
  | .oneOf set => some set
  | _ => none

/-- One of the options, the first one that it can be. Options that are all characters or all sets
are one set. -/
def choiceOf (options : List Regex) : Regex :=
  match options with
  | [] => .oneOf .empty
  | [only] => only
  | options =>
    match options.mapM code?, options.mapM set? with
    | some codes, _ => ofSet (.ofCodes codes)
    | none, some sets => ofSet (.unions sets)
    | none, none => .alternatives options

/-- What two lists start with. -/
def sharedStart : List Regex → List Regex → List Regex
  | a :: as, b :: bs => if same a b then a :: sharedStart as bs else []
  | _, _ => []

/-- The parts that all options start with, if each of them is a sequence. -/
def commonStart : List Regex → List Regex
  | .concat first :: rest =>
    rest.foldl
      (fun start option =>
        match option with
        | .concat parts => sharedStart start parts
        | _ => [])
      first
  | _ => []

/-- One of the items, the first one that it can be, with what they all start with in front. -/
def choice (items : List Regex) : Regex :=
  match items.flatMap options with
  | [] => choiceOf []
  | [only] => only
  | options =>
    match commonStart options with
    | [] => choiceOf options
    | start =>
      let ends := options.map fun option => sequence (option.parts.drop start.length)
      sequence (start ++ [choiceOf (ends.flatMap Regex.options)])

/-- The body at least `low` and at most `high` times. What takes no character need not be repeated
more than once. -/
def repetition (body : Regex) (low : Nat) (high : Option Nat) (greedy : Bool) : Regex :=
  let (low, high) :=
    if body.isZeroWidth then (min low 1, some (min (high.getD 1) 1)) else (low, high)
  if low = 0 && high = some 0 then .empty
  else if low = 1 && high = some 1 then body
  else .repeated body low high greedy

end Regex

end Lookahead
