import Lookahead.Lexer.Automaton.Basic
import Lookahead.Lexer.Lexemes
import Lookahead.Text.Cuts

/-!
# Runs in rounds

In a machine a run goes round by round, with a place in the input as its only state: what was read
is cut out of the input between two bytes, a state of an automaton is looked up by its number, and
places are moved with counters. A cut inside a character and a number without a state have no
result, and nothing in the rounds bounds them. So a run has a reply only if it comes to an end and
none of its steps fails. The reply is that a counter overflows, or the answer of the run.
-/

namespace Lookahead

/-! ### Loops -/

/-- What a round of a loop comes to. -/
inductive Round (S A : Type) where
  | done (answer : A)
  | again (state : S)

/-- Goes on for at most `bound` rounds. -/
def Round.loop? {S A : Type} (round? : S → Option (Round S A)) : Nat → Option (Round S A) → Option A
  | _, none => none
  | _, some (.done answer) => some answer
  | 0, some (.again _) => none
  | bound + 1, some (.again state) => loop? round? bound (round? state)

/-! ### Errors -/

namespace LexError

/-- The error at `position`, with the line between the last line break in front of it and the first
one behind it. -/
def cut? (input : List Char) (lineBreak : Char) (position : Position) : Option LexError := do
  let (before, after) ← Text.splitAt? input position.index
  let lineStart := Text.byteLength (before.reverse.dropWhile (· != lineBreak)).reverse
  let lineEnd := position.index + Text.byteLength (after.takeWhile (· != lineBreak))
  let line ← Text.slice? input lineStart lineEnd
  return ⟨after.head?, position, Text.trimReturns line⟩

/-- The error at a position inside a character, which begins at the last byte in front of the
position where the input can be cut. -/
def misaligned? (input : List Char) (position : Position) : Option LexError := do
  let (_, text) ← Text.splitAt? input (Text.boundaryBefore input position.index)
  return ⟨text.head?, position, []⟩

end LexError

/-! ### Runs -/

variable {K : Type}

namespace Lexer

/-- What a run answers: a token and the place behind it, or nothing, or an error. -/
abbrev Answer (K : Type) := Except LexError (Option (Token K × Position))

/-- The answer of a run, unless a counter overflows. -/
abbrev Reply (K : Type) := Except Overflow (Answer K)

/-- How a run at `position` begins: it looks whether the input can be cut there. -/
def enter? (input : List Char) (position : Position) : Option (Round Position (Reply K)) :=
  if Text.byteLength input ≤ position.index then some (.done (.ok (.ok none)))
  else if (Text.splitAt? input position.index).isNone then
    (LexError.misaligned? input position).map fun error => .done (.ok (.error error))
  else some (.again position)

/-- A run by rounds. Each but the first leaves less of the input, so there are no more than this. -/
def runBy? (round? : List Char → Position → Option (Round Position (Reply K))) (input : List Char)
    (position : Position) : Option (Reply K) :=
  Round.loop? (round? input) (input.length + 1) (enter? input position)

end Lexer

namespace Automaton

/-- Follows transitions from the state `number`. A state that is entered is looked up when there is
a next character. -/
def walk? (automaton : Automaton K) (counting : Counting) (number : Nat) (cursor : Position) :
    List Char → Option (Except Overflow (Nat × Position))
  | [] => some (.ok (number, cursor))
  | c :: rest => do
    let state ← automaton.states[number]?
    match state.next? c with
    | none => some (.ok (number, cursor))
    | some target =>
      match cursor.advanceIn counting automaton.lineBreak c with
      | .error overflow => some (.error overflow)
      | .ok behind => walk? automaton counting target behind rest

/-- A round from the first character on that is not ignored. The automaton follows transitions, and
the state where it stops decides. -/
def lexemeRound? (automaton : Automaton K) (counting : Counting) (input : List Char)
    (first : Position) : Option (Round Position (Lexer.Reply K)) := do
  let (_, text) ← Text.splitAt? input first.index
  match ← automaton.walk? counting 0 first text with
  | .error overflow => some (.done (.error overflow))
  | .ok (number, cursor) =>
    let state ← automaton.states[number]?
    match if first.index < cursor.index then state.ending else none with
    | none =>
      (LexError.cut? input automaton.lineBreak cursor).map fun error => .done (.ok (.error error))
    | some ending =>
      if ending.skipped then some (.again cursor)
      else
        (Text.slice? input first.index cursor.index).map fun lexeme =>
          .done (.ok (.ok (some (ending.emit lexeme first, cursor))))

/-- One round of a run: it passes over ignored characters and follows transitions once. -/
def round? (automaton : Automaton K) (counting : Counting) (input : List Char)
    (position : Position) : Option (Round Position (Lexer.Reply K)) := do
  let (_, text) ← Text.splitAt? input position.index
  match position.advanceOverIn counting automaton.lineBreak (text.takeWhile automaton.ignores) with
  | .error overflow => some (.done (.error overflow))
  | .ok first =>
    if Text.byteLength input ≤ first.index then some (.done (.ok (.ok none)))
    else automaton.lexemeRound? counting input first

end Automaton

namespace LexemeTable

/-- One round of a run: it looks for the longest match. The match must not be longer than the text
that is left. -/
def round? (table : LexemeTable K) (counting : Counting) (input : List Char)
    (position : Position) : Option (Round Position (Lexer.Reply K)) :=
  if Text.byteLength input ≤ position.index then some (.done (.ok (.ok none)))
  else do
    let (_, rest) ← Text.splitAt? input position.index
    match longest rest table.lexemes with
    | none => (LexError.cut? input '\n' position).map fun error => .done (.ok (.error error))
    | some (lexeme, length) =>
      if rest.length < length then none
      else
        let text := rest.take length
        match lexeme.advanceIn counting position text with
        | .error overflow => some (.done (.error overflow))
        | .ok next =>
          if lexeme.skipped then some (.again next)
          else some (.done (.ok (.ok (some (⟨lexeme.kind, text, position⟩, next)))))

end LexemeTable

end Lookahead
