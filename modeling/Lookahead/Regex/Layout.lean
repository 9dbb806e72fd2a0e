import Lookahead.Regex.Encoding
import Std.Data.TreeMap.Basic

/-!
# Machines of limited size

A regular expression can be laid out as a machine whose states read the bytes of a text. Here only
the memory that the machine takes is counted: for each state, for each byte range that leads on
from a state with several ones, and for each way on of a state that only branches. A machine that
takes more than the limit is not laid out.

A set of characters becomes a part of the machine that reads their encodings. States that go on in
the same way are shared as far as a table with a bounded number of slots shows them: a hash gives
each state a slot, which holds the last state that was put there.
-/

namespace Lookahead

/-- A machine as far as it is laid out. -/
structure Layout where
  states : Nat := 0
  /-- The bytes that are taken by what leads on from the states. -/
  links : Nat := 0
  deriving DecidableEq, Repr

namespace Layout

/-- The number of bytes that a machine can take. -/
def limit : Nat := 10485760

/-- The layout, if it is within the limit. -/
def checked (layout : Layout) : Option Layout :=
  if layout.states * 32 + layout.links ≤ limit then some layout else none

/-- Adds states with one way on each. -/
def addStates (count : Nat) (layout : Layout) : Option Layout :=
  checked { layout with states := layout.states + count }

/-- Adds a state that some byte ranges lead on from. -/
def addReader (ranges : Nat) (layout : Layout) : Option Layout :=
  checked { states := layout.states + 1, links := layout.links + 8 * ranges }

/-- Adds ways on to states that only branch. -/
def addWays (count : Nat) (layout : Layout) : Option Layout :=
  checked { layout with links := layout.links + 4 * count }

/-! ### Shared states -/

/-- Where a range of bytes leads to. -/
structure Link where
  range : Encoding.ByteRange
  target : Nat
  deriving DecidableEq, Repr

/-- Mixes a number into a hash. -/
def mix (hash : UInt64) (n : Nat) : UInt64 := (hash ^^^ UInt64.ofNat n) * 1099511628211

/-- The hash of numbers. -/
def hashOf (numbers : List Nat) : Nat := (numbers.foldl mix 14695981039346656037).toNat

/-- States by their slots: what leads on from each of them, and its number. -/
abbrev SharedStates := Std.TreeMap Nat (List Link × Nat)

/-- A layout with the states of it that can be shared. -/
structure Sharing where
  layout : Layout
  shared : SharedStates := {}

/-- The number of the state with these links, which is added by `add` unless it is found in the
slot. -/
def Sharing.state (add : Layout → Option Layout) (slot : Nat) (links : List Link)
    (sharing : Sharing) : Option (Sharing × Nat) :=
  let addNew :=
    (add sharing.layout).map fun layout =>
      (⟨layout, sharing.shared.insert slot (links, sharing.layout.states)⟩,
        sharing.layout.states)
  match sharing.shared.get? slot with
  | some (found, number) => if found = links then some (sharing, number) else addNew
  | none => addNew

/-! ### Reading a character forwards -/

/-- A state with links that is not complete: the last one in front, and the range that is going to
lead to the state behind. -/
structure OpenState where
  links : List Link := []
  range : Option Encoding.ByteRange
  deriving DecidableEq, Repr

/-- The state with its open range leading to `target`. -/
def OpenState.close (state : OpenState) (target : Nat) : List Link :=
  match state.range with
  | some range => ⟨range, target⟩ :: state.links
  | none => state.links

/-- The state that reads with these links, the last one in front. -/
def reader (links : List Link) (sharing : Sharing) : Option (Sharing × Nat) :=
  let links := links.reverse
  let hash := hashOf (links.flatMap fun link => [link.range.1, link.range.2, link.target])
  sharing.state (addReader links.length) (hash % 10000) links

/-- Completes a chain of states, each of which leads to the next one and the last one to `target`,
and gives the number of the first one. -/
def closeChain (target : Nat) : List OpenState → Sharing → Option (Sharing × Nat)
  | [], sharing => some (sharing, target)
  | state :: rest, sharing =>
    match closeChain target rest sharing with
    | none => none
    | some (sharing, next) => reader (state.close next) sharing

/-- Makes a chain of states read a sequence too, which comes behind all that it reads so far. -/
def extendChain (target : Nat) :
    List Encoding.ByteRange → List OpenState → Sharing → Option (Sharing × List OpenState)
  | [], chain, sharing => some (sharing, chain)
  | ranges, [], sharing => some (sharing, ranges.map fun range => { range := some range })
  | range :: ranges, state :: rest, sharing =>
    if state.range = some range then
      (extendChain target ranges rest sharing).map fun (sharing, rest) =>
        (sharing, state :: rest)
    else
      match closeChain target rest sharing with
      | none => none
      | some (sharing, next) =>
        some (sharing, ⟨state.close next, some range⟩ ::
          ranges.map fun range => { range := some range })

/-- Makes a chain of states read the sequences, which are in ascending order, and completes it. -/
def readForwards (target : Nat) :
    List (List Encoding.ByteRange) → List OpenState → Sharing → Option Layout
  | [], chain, sharing => (closeChain target chain sharing).map (·.1.layout)
  | ranges :: rest, chain, sharing =>
    match extendChain target ranges chain sharing with
    | none => none
    | some (sharing, chain) => readForwards target rest chain sharing

/-! ### Reading a character backwards -/

/-- Adds states that read the sequence from its end and then lead to `target`, and gives the number
of the first one of them. -/
def readSequence (target : Nat) :
    List Encoding.ByteRange → Sharing → Option (Sharing × Nat)
  | [], sharing => some (sharing, target)
  | range :: rest, sharing =>
    let slot := hashOf [target, range.1, range.2] % 1000
    match sharing.state (addStates 1) slot [⟨range, target⟩] with
    | none => none
    | some (sharing, number) => readSequence number rest sharing

/-- Adds states that read one of the sequences backwards. -/
def readBackwards (target : Nat) :
    List (List Encoding.ByteRange) → Sharing → Option Layout
  | [], sharing => some sharing.layout
  | ranges :: rest, sharing =>
    match readSequence target ranges sharing with
    | none => none
    | some (sharing, _) =>
      match addWays 1 sharing.layout with
      | none => none
      | some layout => readBackwards target rest { sharing with layout }

/-! ### Sets -/

/-- Adds states that read a character of the set. In a set of ASCII each character is one byte. -/
def addSet (backwards ascii : Bool) (set : CharSet) (layout : Layout) : Option Layout :=
  match addStates 1 layout with
  | none => none
  | some behind =>
    if ascii then addReader set.ranges.length behind
    else if backwards then
      -- The state that branches comes first, and the one behind the set second.
      match addStates 1 behind with
      | none => none
      | some behind =>
        readBackwards (layout.states + 1) (Encoding.sequences set) { layout := behind }
    else
      readForwards layout.states (Encoding.sequences set) [{ range := none }]
        { layout := behind }

end Layout

end Lookahead
