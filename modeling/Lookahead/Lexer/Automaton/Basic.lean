import Lookahead.Lexer.Basic
import Lookahead.Lexer.CharTest

/-!
# Automata that read tokens

An automaton starts in its first state, follows transitions as long as one accepts the next
character, and reads a token if it then is in a terminal state and has read something. Between
tokens it passes over the characters that it ignores.
-/

namespace Lookahead

/-- A transition to the state `target` on the characters that `test` accepts. -/
structure Transition where
  test : CharTest
  target : Nat
  deriving DecidableEq, Repr

/-- What a terminal state makes of the text that led to it. -/
structure Ending (K : Type) where
  kind : K
  /-- Whether the text is passed over without a token. -/
  skipped : Bool
  /-- A last change to the token. -/
  callback : Option (Token K → Token K)

/-- The token that comes out at a terminal state for a text and the place where it starts. -/
def Ending.emit {K : Type} (ending : Ending K) (text : List Char) (position : Position) :
    Token K :=
  let token : Token K := ⟨ending.kind, text, position⟩
  match ending.callback with
  | some callback => callback token
  | none => token

/-- A state of an automaton, terminal if it has an ending. Its transitions are tried in order. -/
structure State (K : Type) where
  name : Option String
  transitions : List Transition
  ending : Option (Ending K)

namespace State

variable {K : Type}

/-- A state without name, transitions and ending. -/
def fresh : State K := ⟨none, [], none⟩

/-- The target of the first transition that accepts `c`. -/
def next? (state : State K) (c : Char) : Option Nat :=
  (state.transitions.find? (·.test.accepts c)).map (·.target)

/-- The name of the state, or its number behind a hash sign. -/
def title (state : State K) (number : Nat) : String := state.name.getD ("#" ++ toString number)

end State

/-- An automaton that reads tokens. The first state is where every reading starts. -/
structure Automaton (K : Type) where
  states : List (State K)
  /-- The characters that are passed over between tokens. -/
  ignored : List Char
  /-- Whether line breaks and carriage returns are passed over between tokens. -/
  ignoresLineEnds : Bool
  lineBreak : Char

namespace Automaton

variable {K : Type}

/-- Whether `c` is passed over between tokens. -/
def ignores (automaton : Automaton K) (c : Char) : Bool :=
  automaton.ignored.contains c ||
    (automaton.ignoresLineEnds && (c = automaton.lineBreak || c = '\r'))

/-- The state that the automaton goes to from the state `number` on `c`. -/
def next? (automaton : Automaton K) (number : Nat) (c : Char) : Option Nat :=
  automaton.states[number]?.bind (·.next? c)

/-- The ending of the state `number`. -/
def ending? (automaton : Automaton K) (number : Nat) : Option (Ending K) :=
  automaton.states[number]?.bind (·.ending)

/-- How far an automaton gets on a text: the state in which it stops, what it has read by then
and what it has not. -/
structure Walk where
  state : Nat
  lexeme : List Char
  rest : List Char
  deriving DecidableEq, Repr

/-- Follows transitions from the state `number` as long as there is one for the next
character. -/
def walk (automaton : Automaton K) (number : Nat) : List Char → Walk
  | [] => ⟨number, [], []⟩
  | c :: rest =>
    match automaton.next? number c with
    | some target =>
      let onward := walk automaton target rest
      { onward with lexeme := c :: onward.lexeme }
    | none => ⟨number, [], c :: rest⟩

/-- Reads the next token of `text`, which starts at `position` of `input`, passing over at most
`bound` skipped lexemes on the way. -/
def read (automaton : Automaton K) (input : List Char) :
    Nat → Position → List Char → Except LexError (Option (Token K × Position))
  | 0, _, _ => .ok none
  | bound + 1, position, text =>
    let first := position.advanceOver automaton.lineBreak (text.takeWhile automaton.ignores)
    match text.dropWhile automaton.ignores with
    | [] => .ok none
    | c :: rest =>
      let walk := automaton.walk 0 (c :: rest)
      let behind := first.advanceOver automaton.lineBreak walk.lexeme
      -- Without a step there is no lexeme, even if the first state is terminal.
      match if walk.lexeme.isEmpty then none else automaton.ending? walk.state with
      | none => .error (LexError.unexpected input automaton.lineBreak behind)
      | some ending =>
        if ending.skipped then read automaton input bound behind walk.rest
        else .ok (some (ending.emit walk.lexeme first, behind))

/-- Reads the next token of `input` from `position` on. A skipped lexeme is not empty, so the
length of the text that is left bounds their number. -/
def run (automaton : Automaton K) (input : List Char) (position : Position) :
    Except LexError (Option (Token K × Position)) :=
  match Text.seek input position.index with
  | .beyond => .ok none
  | .inside c => .error (.misaligned c position)
  | .before text => automaton.read input text.length position text

/-- The automaton as a lexer. -/
def lexer (automaton : Automaton K) : Lexer K := ⟨automaton.run⟩

/-- The number of states. -/
def size (automaton : Automaton K) : Nat := automaton.states.length

/-- The number of the state of that name. -/
def state? (automaton : Automaton K) (name : String) : Option Nat :=
  automaton.states.findIdx? (·.name = some name)

/-- One state in the table of an automaton. -/
def stateText [TokenKind K] (state : State K) (number : Nat) : String :=
  let ending :=
    match state.ending with
    | some ending => "Some(" ++ TokenKind.label ending.kind ++ ")"
    | none => "None"
  let transitions := state.transitions.map fun transition =>
    "(" ++ toString transition.test ++ ", " ++ toString transition.target ++ ")"
  "(" ++ Text.quoteString (state.title number) ++ ", " ++ ending ++ ", [" ++
    ", ".intercalate transitions ++ "])"

/-- The table of all states: the title of each, the kind it ends with and its transitions. -/
def table [TokenKind K] (automaton : Automaton K) : String :=
  "[" ++ ", ".intercalate (automaton.states.mapIdx fun number state => stateText state number) ++
    "]"

end Automaton

end Lookahead
