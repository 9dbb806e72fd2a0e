import Lookahead.Regex.Pattern.State
import Lookahead.Text.Alphabetic
import Lookahead.Text.Number

/-!
# Repetitions and groups in patterns

The bounds of a repetition, and what stands between an opening parenthesis and the contents of a
group: a name, flags, or nothing.
-/

namespace Lookahead

namespace Pattern

/-! ### Repetition -/

/-- The largest number of repetitions that can be written. -/
def maxCount : Nat := 0xffffffff

/-- Reads a number with white space around it. -/
def readCount (state : State) : Option (Nat × State) :=
  let trimmed := { state with text := state.text.dropWhile Text.isWhiteSpace }
  let rec digits (value : Option Nat) : Nat → State → Option Nat × State
    | 0, state => (value, state)
    | bound + 1, state =>
      match state.text with
      | [] => (value, state)
      | c :: rest =>
        if c.isDigit then
          digits (some (value.getD 0 * 10 + (c.toNat - '0'.toNat))) bound (state.at rest)
        else (value, state)
  let (value, behind) := digits none trimmed.text.length trimmed
  match value with
  | none => none
  | some value =>
    if value ≤ maxCount then
      some (value, behind.at (behind.text.dropWhile Text.isWhiteSpace))
    else none

/-- Reads the bounds of a repetition, whose opening brace was read. -/
def readBounds (state : State) : Option ((Nat × Option Nat) × State) :=
  match readCount state with
  | none => none
  | some (low, state) =>
    match state.text with
    | '\x7d' :: rest => some ((low, some low), state.at rest)
    | ',' :: rest =>
      let inside := state.at rest
      match inside.text with
      | '\x7d' :: rest => some ((low, none), state.at rest)
      | _ =>
        match readCount inside with
        | none => none
        | some (high, state) =>
          match state.text with
          | '\x7d' :: rest =>
            if low ≤ high then some ((low, some high), state.at rest) else none
          | _ => none
    | _ => none

/-- Whether a repetition is greedy, and the state behind the sign that says so. -/
def readGreed (state : State) : Bool × State :=
  match state.text with
  | '?' :: rest => (state.flags.swapGreed, { state with text := rest })
  | _ => (!state.flags.swapGreed, state)

/-! ### Groups -/

/-- Whether `c` can be in the name of a group, in front if `first`. -/
def isGroupNameChar (first : Bool) (c : Char) : Bool :=
  c = '_' || Text.isAlphabetic c ||
    (!first && (c = '.' || c = '[' || c = ']' || Text.isNumber c))

/-- Reads the name of a group up to the closing angle bracket. -/
def readGroupName (state : State) : Option State :=
  let name := state.text.takeWhile (· != '>')
  match state.text.dropWhile (· != '>'), name with
  | '>' :: rest, first :: others =>
    if isGroupNameChar true first && others.all (isGroupNameChar false) &&
        !state.groupNames.contains name then
      some { state with text := rest, groupNames := name :: state.groupNames }
    else none
  | _, _ => none

/-- Reads flags up to a colon or a closing parenthesis: the flags, whether there were any, and
the text from there on. `seen` are the letters that were read. -/
def readFlags (seen : List Char) (flags : Flags) :
    List Char → Option (Flags × Bool × List Char)
  | [] => none
  | c :: rest =>
    if c = ':' || c = ')' then
      if seen.head? = some '-' then none else some (flags, !seen.isEmpty, c :: rest)
    else if seen.contains c then none
    else if c = '-' then readFlags (c :: seen) flags rest
    else
      match flags.set? c (!seen.contains '-') with
      | none => none
      | some flags => readFlags (c :: seen) flags rest

/-- What an opening parenthesis starts. -/
inductive Opening where
  /-- A group, with a number if it is kept track of; the state is in front of what it holds. -/
  | group (number : Option Nat) (state : State)
  /-- Flags for what follows; the state is behind them. -/
  | flags (state : State)
  deriving DecidableEq, Repr

/-- Opens a group that gets the next number. -/
def Opening.numbered (state : State) : Opening :=
  .group (some (state.groups + 1)) { state with groups := state.groups + 1 }

/-- Reads what stands between an opening parenthesis and the contents of the group. -/
def readOpening (state : State) : Option Opening :=
  let state := state.at state.text
  match state.text with
  | '?' :: 'P' :: '<' :: rest => (readGroupName { state with text := rest }).map .numbered
  | '?' :: '<' :: rest => (readGroupName { state with text := rest }).map .numbered
  | '?' :: rest =>
    match readFlags [] state.flags rest with
    | some (flags, _, ':' :: rest) => some (.group none { state with text := rest, flags })
    | some (flags, true, ')' :: rest) => some (.flags { state with text := rest, flags })
    | _ => none
  | _ => some (.numbered state)

end Pattern

end Lookahead
