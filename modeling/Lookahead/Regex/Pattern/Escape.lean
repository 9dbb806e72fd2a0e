import Lookahead.Regex.Pattern.Property

/-!
# Escapes in patterns

What a backslash and the characters behind it stand for: a character, a named set, or a condition
on the place.
-/

namespace Lookahead

namespace Pattern

/-- What a backslash and the characters behind it stand for. -/
inductive Escape where
  | char (c : Char)
  | set (set : CharSet)
  | assertion (assertion : Assertion)
  deriving DecidableEq, Repr

/-- Whether `c` stands for itself behind a backslash. -/
def isEscapable (c : Char) : Bool :=
  c.toNat < 128 && !c.isAlphanum && c != '<' && c != '>'

/-- The named set of that letter, of Unicode or of ASCII. -/
def setOfLetter? (flags : Flags) (letter : Char) : Option CharSet :=
  match letter, flags.unicode with
  | 'd', true => some Unicode.decimalNumber
  | 'd', false => some .asciiDigits
  | 's', true => some Text.whiteSpace
  | 's', false => some .asciiWhiteSpace
  | 'w', true => some Unicode.wordChars
  | 'w', false => some .asciiWordChars
  | 'D', true => some Unicode.decimalNumber.complement
  | 'S', true => some Text.whiteSpace.complement
  | 'W', true => some Unicode.wordChars.complement
  | _, _ => none

/-- The control character of that letter. -/
def controlOfLetter? (letter : Char) : Option Char :=
  match letter with
  | 'a' => some '\x07'
  | 'f' => some '\x0c'
  | 'n' => some '\n'
  | 'r' => some '\r'
  | 't' => some '\t'
  | 'v' => some '\x0b'
  | _ => none

/-- The characters that words are made of. -/
def wordSet (flags : Flags) : CharSet :=
  if flags.unicode then Unicode.wordChars else .asciiWordChars

/-- The condition of that letter. -/
def assertionOfLetter? (flags : Flags) (letter : Char) : Option Assertion :=
  match letter with
  | 'A' => some .textStart
  | 'z' => some .textEnd
  | 'b' => some (.word .boundary (wordSet flags))
  | 'B' => some (.word .noBoundary (wordSet flags))
  | '<' => some (.word .start (wordSet flags))
  | '>' => some (.word .finish (wordSet flags))
  | _ => none

/-- Whether `c` can be a part of the name of an edge. -/
def isEdgeLetter (c : Char) : Bool := c.isAlpha || c = '-'

/-- The letters of the name of an edge up to the closing brace, and the state behind it. -/
def readEdgeName (name : List Char) : Nat → State → Option (List Char × State)
  | 0, _ => none
  | bound + 1, state =>
    match state.text with
    | [] => none
    | c :: rest =>
      if c = '\x7d' then some (name, { state with text := rest })
      else if isEdgeLetter c then readEdgeName (name ++ [c]) bound (state.at rest)
      else none

/-- The edge of that name. -/
def edgeOfName? (name : String) : Option WordEdge :=
  match name with
  | "start" => some .start
  | "end" => some .finish
  | "start-half" => some .startHalf
  | "end-half" => some .finishHalf
  | _ => none

/-- Reads the name of an edge in braces, if one stands behind the sign of a boundary. Braces
with anything but a letter or a hyphen first are a repetition. -/
def readBoundary (state : State) : Option (Assertion × State) :=
  let plain := some (.word .boundary (wordSet state.flags), state)
  match state.text with
  | '\x7b' :: rest =>
    let inside := state.at rest
    match inside.text with
    | [] => none
    | c :: _ =>
      if isEdgeLetter c then
        match readEdgeName [] rest.length inside with
        | none => none
        | some (name, state) =>
          (edgeOfName? (String.ofList name)).map fun edge =>
            (.word edge (wordSet state.flags), state)
      else plain
  | _ => plain

/-- Reads what stands behind a backslash. Without Unicode no number above ASCII is known by two
digits. -/
def readEscape (state : State) : Option (Escape × State) :=
  match state.text with
  | [] => none
  | 'x' :: rest =>
    let inside := state.at rest
    match readNumbered 2 inside with
    | none => none
    | some (c, behind) =>
      if !state.flags.unicode && c.toNat ≥ 128 && inside.text.head? != some '\x7b' then none
      else some (.char c, behind)
  | 'u' :: rest => (readNumbered 4 (state.at rest)).map fun (c, state) => (.char c, state)
  | 'U' :: rest => (readNumbered 8 (state.at rest)).map fun (c, state) => (.char c, state)
  | 'p' :: rest =>
    (readProperty false { state with text := rest }).map fun (set, state) => (.set set, state)
  | 'P' :: rest =>
    (readProperty true { state with text := rest }).map fun (set, state) => (.set set, state)
  | 'b' :: rest =>
    (readBoundary { state with text := rest }).map fun (assertion, state) =>
      (.assertion assertion, state)
  | c :: rest =>
    let state' := { state with text := rest }
    if isEscapable c then some (.char c, state')
    else
      match setOfLetter? state.flags c, controlOfLetter? c, assertionOfLetter? state.flags c with
      | some set, _, _ => some (.set set, state')
      | none, some control, _ => some (.char control, state')
      | none, none, some assertion => some (.assertion assertion, state')
      | none, none, none => none

end Pattern

end Lookahead
