import Lookahead.Regex.Pattern.BracketSet
import Lookahead.Regex.Pattern.Group
import Lookahead.Regex.Size

/-!
# Regular expressions written as patterns

A pattern is read from left to right into a regular expression. Flags change how what follows
them is read, up to the end of the group that they stand in: `i` ignores case, `m` lets the signs
for the start and the end hold at lines, `s` lets the dot stand for line feeds, `R` also counts
carriage returns as line ends, `U` swaps greedy and lazy repetition, `x` passes over white space
and comments, and without `u` only ASCII is known.

A reader gives nothing if the pattern is not well formed. Readers that call one another take a
bound on the number of characters that are left. A pattern that is well formed stands for an
expression only if it is not nested too deeply and the expression is not too large.
-/

namespace Lookahead

namespace Pattern

/-! ### Expressions with their nesting -/

/-- An expression and the number of levels that its pattern is nested: a group, a repetition, a set
in brackets, a sequence and a choice are each one level above what they are made of. -/
structure Expression where
  regex : Regex
  depth : Nat := 0

/-- A part of a sequence. Flags are parts too, but cannot be repeated. -/
structure Part where
  expression : Expression
  repeatable : Bool := true

/-- The number of levels of the expression that is nested most. -/
def deepest (expressions : List Expression) : Nat :=
  (expressions.map (·.depth)).foldl max 0

/-- The number of levels of what is made of the expressions, which are no level of their own if
there is just one. -/
def depthOf (expressions : List Expression) : Nat :=
  match expressions with
  | [] => 0
  | [only] => only.depth
  | expressions => deepest expressions + 1

/-- The parts that were read, the last one in front, as a sequence. -/
def gather (parts : List Part) : Expression :=
  let expressions := parts.reverse.map (·.expression)
  ⟨.sequence (expressions.map (·.regex)), depthOf expressions⟩

/-- One of the expressions. -/
def oneOf (expressions : List Expression) : Expression :=
  ⟨.choice (expressions.map (·.regex)), depthOf expressions⟩

/-- Repeats the last one of the parts that were read, the last one being in front. -/
def repeatLast (low : Nat) (high : Option Nat) (greedy : Bool) :
    List Part → Option (List Part)
  | ⟨⟨regex, depth⟩, true⟩ :: others =>
    some ({ expression := ⟨.repetition regex low high greedy, depth + 1⟩ } :: others)
  | _ => none

/-- The group that holds the expression. -/
def group (number : Option Nat) (body : Expression) : Expression :=
  match number with
  | some number => ⟨.captured number body.regex, body.depth + 1⟩
  | none => ⟨body.regex, body.depth + 1⟩

/-! ### Single signs -/

/-- The expression for one character. -/
def literal (flags : Flags) (c : Char) : Regex :=
  if flags.ignoreCase then .ofSet (folded flags (.single c)) else .literal [c]

/-- The expression for what a backslash and the characters behind it stand for. -/
def Escape.regex (flags : Flags) : Escape → Regex
  | .char c => literal flags c
  | .set chars => .ofSet chars
  | .assertion condition => .check condition

/-- The expression for a dot. Without Unicode a dot could stand for a part of a character. -/
def dot? (flags : Flags) : Option Regex :=
  if !flags.unicode then none
  else if flags.dotAll then some (.oneOf .full)
  else if flags.returnEndsLine then
    some (.oneOf ((CharSet.single '\n').union (.single '\r')).complement)
  else some (.oneOf (CharSet.single '\n').complement)

/-- The condition for the sign of the start. -/
def startAssertion (flags : Flags) : Assertion :=
  if !flags.multiLine then .textStart
  else if flags.returnEndsLine then .returnLineStart
  else .lineStart

/-- The condition for the sign of the end. -/
def endAssertion (flags : Flags) : Assertion :=
  if !flags.multiLine then .textEnd
  else if flags.returnEndsLine then .returnLineEnd
  else .lineEnd

/-- The bounds of the repetition that the character stands for. -/
def repetition? (c : Char) : Option (Nat × Option Nat) :=
  match c with
  | '?' => some (0, some 1)
  | '*' => some (0, none)
  | '+' => some (1, none)
  | _ => none

/-- The expression for a character that stands outside of brackets and has no structure. -/
def charRegex? (flags : Flags) (c : Char) : Option Regex :=
  match c with
  | '.' => dot? flags
  | '^' => some (.check (startAssertion flags))
  | '$' => some (.check (endAssertion flags))
  | _ => some (literal flags c)

/-! ### Alternatives -/

/-- Reads alternatives up to a closing parenthesis or the end. `parts` are the parts of the first
alternative that were read, the last one in front. -/
def readAlternatives : Nat → List Part → State → Option (List Expression × State)
  | 0, _, _ => none
  | bound + 1, parts, state =>
    let state := state.at state.text
    match state.text with
    | [] => some ([gather parts], state)
    | ')' :: _ => some ([gather parts], state)
    | '|' :: rest =>
      -- The alternatives behind the bar are read in whole, so a bar needs no loop.
      match readAlternatives bound [] { state with text := rest } with
      | none => none
      | some (others, state) => some (gather parts :: others, state)
    | '(' :: rest =>
      match readOpening { state with text := rest } with
      | none => none
      | some (.flags state) =>
        readAlternatives bound ({ expression := { regex := .empty }, repeatable := false } :: parts)
          state
      | some (.group number inside) =>
        match readAlternatives bound [] inside with
        | some (alternatives, behind) =>
          match behind.text with
          | ')' :: rest =>
            -- Flags that were set inside the group end with it; what is known of groups is kept.
            readAlternatives bound ({ expression := group number (oneOf alternatives) } :: parts)
              { behind with text := rest, flags := state.flags }
          | _ => none
        | none => none
    | '[' :: rest =>
      let (negated, first, inside) := openSet { state with text := rest }
      match readSet negated inside.text.length none first inside with
      | none => none
      | some (⟨set, depth⟩, state) =>
        readAlternatives bound ({ expression := ⟨.ofSet set, depth⟩ } :: parts) state
    | '\x7b' :: rest =>
      match readBounds (state.at rest) with
      | none => none
      | some ((low, high), state) =>
        let (greedy, state) := readGreed state
        match repeatLast low high greedy parts with
        | none => none
        | some parts => readAlternatives bound parts state
    | '\\' :: rest =>
      match readEscape { state with text := rest } with
      | none => none
      | some (escape, behind) =>
        readAlternatives bound ({ expression := { regex := escape.regex state.flags } } :: parts)
          behind
    | c :: rest =>
      match repetition? c with
      | some (low, high) =>
        let (greedy, state) := readGreed { state with text := rest }
        match repeatLast low high greedy parts with
        | none => none
        | some parts => readAlternatives bound parts state
      | none =>
        match charRegex? state.flags c with
        | none => none
        | some regex =>
          readAlternatives bound ({ expression := { regex } } :: parts)
            { state with text := rest }

/-- The largest number of levels that a pattern can be nested. -/
def maxDepth : Nat := 250

end Pattern

/-- The regular expression that is written as `pattern`, if the pattern is well formed, not nested
too deeply and not too large. -/
def Regex.ofPattern? (pattern : List Char) : Option Regex :=
  match Pattern.readAlternatives (pattern.length + 1) [] { text := pattern } with
  | some (options, state) =>
    let whole := Pattern.oneOf options
    if state.text.isEmpty && whole.depth ≤ Pattern.maxDepth && whole.regex.isModerate then
      some whole.regex
    else none
  | none => none

end Lookahead
