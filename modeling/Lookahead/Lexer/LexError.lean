import Lookahead.Position
import Lookahead.Text.Basic
import Lookahead.Text.Escaped
import Lookahead.Text.Paint

/-!
# Lexical errors

A lexical error names the character at which no token can be read, and keeps the line around it
for the message.
-/

namespace Lookahead

/-- No token can be read at `position`. -/
structure LexError where
  /-- The character in the way; nothing if the input ended in the middle of a token. -/
  character : Option Char
  position : Position
  /-- The line of the input around the position. -/
  line : List Char
  deriving DecidableEq, Repr

namespace LexError

/-- The error at `position` of `input`, whose lines end at `lineBreak`. -/
def unexpected (input : List Char) (lineBreak : Char) (position : Position) : LexError :=
  let (before, after) := Text.splitAtByte input position.index
  ⟨after.head?, position, Text.lineAround lineBreak before after⟩

/-- The error at a position inside the bytes of the character `c`. -/
def misaligned (c : Char) (position : Position) : LexError := ⟨some c, position, []⟩

/-- The line with a caret under the place of the error, and the message under both. -/
def describe (paint : Text.Paint) (error : LexError) : String :=
  let found :=
    match error.character with
    | some c => "unexpected character " ++ Text.quoteChar c
    | none => "unexpected end of input"
  String.ofList error.line ++ "\n" ++
    String.ofList (List.replicate (error.position.column - 1) ' ') ++ paint.apply .red "^" ++
    "\nLexer Error: " ++ paint.apply .red found ++ " at " ++ toString error.position

end LexError

end Lookahead
