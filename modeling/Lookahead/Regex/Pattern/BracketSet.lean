import Lookahead.Regex.Pattern.Escape

/-!
# Sets in brackets

A set in brackets lists characters, ranges, named sets and other sets in brackets, and may put
such lists together by operations, which are done from left to right. How deep a set is nested is
counted too: a set in brackets, a list of several members and an operation are each one level above
what they are made of.
-/

namespace Lookahead

namespace Pattern

/-! ### Operations -/

/-- How two sets in brackets are put together. -/
inductive SetOperation where
  | inter
  | minus
  | either
  deriving DecidableEq, Repr

/-- The set that the operation makes of two sets. -/
def SetOperation.apply (operation : SetOperation) (a b : CharSet) : CharSet :=
  match operation with
  | .inter => a.inter b
  | .minus => a.minus b
  | .either => a.either b

/-- The operation that two characters stand for. -/
def operationOf? (first second : Char) : Option SetOperation :=
  if first != second then none
  else
    match first with
    | '&' => some .inter
    | '-' => some .minus
    | '~' => some .either
    | _ => none

/-- A set and the number of levels that it is nested. -/
structure NestedSet where
  set : CharSet
  depth : Nat
  deriving DecidableEq, Repr

/-- The members of a list that were read: the set of them, how many they are, and the number of
levels of the one that is nested most. -/
structure Members where
  set : CharSet := .empty
  count : Nat := 0
  depth : Nat := 0
  deriving DecidableEq, Repr

/-- Adds a member. -/
def Members.add (members : Members) (set : CharSet) (depth : Nat) : Members :=
  ⟨members.set.union set, members.count + 1, max members.depth depth⟩

/-- The members as one set. -/
def Members.nested (members : Members) : NestedSet :=
  ⟨members.set, if members.count ≤ 1 then members.depth else members.depth + 1⟩

/-- Puts the members behind an operation together with the set in front of it. -/
def joinSets (flags : Flags) (pending : Option (NestedSet × SetOperation)) (members : Members) :
    NestedSet :=
  match pending with
  | none => members.nested
  | some (left, operation) =>
    let right := members.nested
    ⟨operation.apply (folded flags left.set) (folded flags right.set),
      max left.depth right.depth + 1⟩

/-! ### Members -/

/-- Reads a named set such as `[:digit:]`, whose opening bracket was read: whether it is negated,
and the set. -/
def readNamedSet (state : State) : Option (Bool × CharSet × State) :=
  match state.text with
  | ':' :: rest =>
    let (negated, rest) :=
      match rest with
      | '^' :: others => (true, others)
      | _ => (false, rest)
    let name := rest.takeWhile (· != ':')
    match rest.dropWhile (· != ':') with
    | ':' :: ']' :: behind =>
      (CharSet.ofAsciiName? (String.ofList name)).map fun set =>
        (negated, folded state.flags set, { state with text := behind })
    | _ => none
  | _ => none

/-- Reads one character or named set of a set in brackets, of ASCII or not. -/
def readAnyMember (state : State) : Option (Escape × State) :=
  match state.text with
  | [] => none
  | '\\' :: rest => readEscape { state with text := rest }
  | c :: rest => some (.char c, { state with text := rest })

/-- Reads one character or named set of a set in brackets. Without Unicode the characters have to
be of ASCII. -/
def readMember (state : State) : Option (Escape × State) :=
  match readAnyMember state with
  | some (.char c, behind) =>
    if state.flags.unicode || c.toNat < 128 then some (.char c, behind) else none
  | other => other

/-- The first character that is neither white space nor the hash sign of a comment. A comment is
passed over only up to its first character. -/
def firstShown (inComment : Bool) : List Char → Option Char
  | [] => none
  | c :: rest =>
    if Text.isWhiteSpace c then firstShown inComment rest
    else if c = '#' && !inComment then firstShown true rest
    else some c

/-- The character behind a hyphen which says whether the hyphen stands for itself: the next one, or
the first one that is shown if white space is passed over. -/
def decider? (flags : Flags) (behind : List Char) : Option Char :=
  if flags.spaced then (firstShown false behind).or behind.head? else behind.head?

/-- Reads a range, or a single member, of a set in brackets. -/
def readRange (state : State) : Option (CharSet × State) :=
  match readMember state with
  | none => none
  | some (first, behind) =>
    let behind := behind.at behind.text
    match behind.text with
    | [] => none
    | c :: rest =>
      let decider := decider? behind.flags rest
      if c != '-' || decider = some ']' || decider = some '-' then
        match first with
        | .char c => some (.single c, behind)
        | .set set => some (set, behind)
        | .assertion _ => none
      else
        match first, readMember (behind.at rest) with
        | .char low, some (.char high, behind) =>
          if low ≤ high then some (.range low high, behind) else none
        | _, _ => none

/-! ### Lists of members -/

/-- Reads the hyphens in front of a set, which stand for themselves. -/
def readHyphens (members : Members) : Nat → State → Members × State
  | 0, state => (members, state)
  | bound + 1, state =>
    match state.text with
    | '-' :: rest => readHyphens (members.add (.single '-') 0) bound (state.at rest)
    | _ => (members, state)

/-- Reads the start of a set in brackets, whose opening bracket was read: whether the set is
negated, and the members that only stand for themselves here. -/
def openSet (state : State) : Bool × Members × State :=
  let state := state.at state.text
  let (negated, state) :=
    match state.text with
    | '^' :: rest => (true, state.at rest)
    | _ => (false, state)
  let (members, state) := readHyphens {} state.text.length state
  match members.count, state.text with
  | 0, ']' :: rest => (negated, members.add (.single ']') 0, state.at rest)
  | _, _ => (negated, members, state)

/-- Reads the rest of a set in brackets up to its closing bracket. `members` were read since the
last operation, and `pending` stands in front of it. -/
def readSet (negated : Bool) :
    Nat → Option (NestedSet × SetOperation) → Members → State → Option (NestedSet × State)
  | 0, _, _, _ => none
  | bound + 1, pending, members, state =>
    let state := state.at state.text
    match state.text with
    | [] => none
    | ']' :: rest =>
      let whole := joinSets state.flags pending members
      (negatedIf state.flags negated (folded state.flags whole.set)).map fun set =>
        (⟨set, whole.depth + 1⟩, { state with text := rest })
    | '[' :: rest =>
      let inside := { state with text := rest }
      let member :=
        match readNamedSet inside with
        | some (negated, named, behind) =>
          (negatedIf state.flags negated named).map fun set => (NestedSet.mk set 0, behind)
        | none =>
          let (negated, first, inside) := openSet inside
          readSet negated bound none first inside
      match member with
      | none => none
      | some (member, state) =>
        readSet negated bound pending (members.add member.set member.depth) state
    | first :: rest =>
      match operationOf? first (rest.headD '\x00') with
      | some operation =>
        readSet negated bound (some (joinSets state.flags pending members, operation)) {}
          { state with text := rest.tail }
      | none =>
        match readRange state with
        | none => none
        | some (member, state) =>
          readSet negated bound pending (members.add member 0) state

end Pattern

end Lookahead
