import Lookahead.Text.WhiteSpace

/-!
# The state of reading a pattern

A reader of patterns holds the text that is left, the flags for what follows, and the groups that
were opened by then. Where white space is passed over, it is passed over behind every character
that is not a part of an escape.
-/

namespace Lookahead

namespace Pattern

/-- How what follows is read. -/
structure Flags where
  ignoreCase : Bool := false
  multiLine : Bool := false
  dotAll : Bool := false
  swapGreed : Bool := false
  returnEndsLine : Bool := false
  unicode : Bool := true
  spaced : Bool := false
  deriving DecidableEq, Repr

/-- Sets the flag of that letter. -/
def Flags.set? (flags : Flags) (letter : Char) (value : Bool) : Option Flags :=
  match letter with
  | 'i' => some { flags with ignoreCase := value }
  | 'm' => some { flags with multiLine := value }
  | 's' => some { flags with dotAll := value }
  | 'U' => some { flags with swapGreed := value }
  | 'R' => some { flags with returnEndsLine := value }
  | 'u' => some { flags with unicode := value }
  | 'x' => some { flags with spaced := value }
  | _ => none

/-- The text that is left, the flags that hold, and the number and the names of the groups that
were opened. -/
structure State where
  text : List Char
  flags : Flags := {}
  groups : Nat := 0
  groupNames : List (List Char) := []
  deriving DecidableEq, Repr

/-- The text behind white space and comments. A comment goes from a hash sign to the end of
the line. -/
def skipSpaces (inComment : Bool) : List Char → List Char
  | [] => []
  | c :: rest =>
    if inComment then skipSpaces (c != '\n') rest
    else if c = '#' then skipSpaces true rest
    else if Text.isWhiteSpace c then skipSpaces false rest
    else c :: rest

/-- The state with the text `text`, without white space and comments in front if they are to be
passed over. -/
def State.at (state : State) (text : List Char) : State :=
  { state with text := if state.flags.spaced then skipSpaces false text else text }

/-! ### Characters by number -/

/-- The value of a hexadecimal digit. -/
def hexValue? (c : Char) : Option Nat :=
  if '0' ≤ c && c ≤ '9' then some (c.toNat - '0'.toNat)
  else if 'a' ≤ c && c ≤ 'f' then some (c.toNat - 'a'.toNat + 10)
  else if 'A' ≤ c && c ≤ 'F' then some (c.toNat - 'A'.toNat + 10)
  else none

/-- The character with that number, if there is one. -/
def scalar? (n : Nat) : Option Char :=
  if n.isValidChar then some (Char.ofNat n) else none

/-- Reads `count` hexadecimal digits, spaces between them as the flags say. -/
def readDigits (value : Nat) : Nat → State → Option (Nat × State)
  | 0, state => some (value, state)
  | count + 1, state =>
    match state.text with
    | [] => none
    | c :: rest =>
      match hexValue? c with
      | none => none
      | some digit => readDigits (value * 16 + digit) count (state.at rest)

/-- Reads hexadecimal digits up to a closing brace; there has to be one. -/
def readBraced (value : Option Nat) : Nat → State → Option (Nat × State)
  | 0, _ => none
  | bound + 1, state =>
    match state.text with
    | [] => none
    | '\x7d' :: rest => value.map fun value => (value, state.at rest)
    | c :: rest =>
      match hexValue? c with
      | none => none
      | some digit => readBraced (some (value.getD 0 * 16 + digit)) bound (state.at rest)

/-- Reads a character by its number, of `count` digits or between braces. -/
def readNumbered (count : Nat) (state : State) : Option (Char × State) :=
  let number :=
    match state.text with
    | '\x7b' :: rest => readBraced none rest.length (state.at rest)
    | _ => readDigits 0 count state
  match number with
  | none => none
  | some (value, state) => (scalar? value).map (·, state)

end Pattern

end Lookahead
