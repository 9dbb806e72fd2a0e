import Lookahead.Lexer.LexError
import Lookahead.Token

/-!
# Lexers

A lexer reads one token at a time from a place in the input and says where the next one may
start. It remembers nothing between two readings, so the tokens of an input are found by reading
again and again, either all at once (`tokenize`) or one by one (`TokenStream`).
-/

namespace Lookahead

/-- A way to read the next token of an input. `run input position` is a token with the place
behind it, or nothing where only ignored input is left. -/
structure Lexer (K : Type) where
  run (input : List Char) (position : Position) : Except LexError (Option (Token K × Position))

namespace Lexer

variable {K : Type}

/-- At most `bound` tokens of `input` from `position` on. -/
def tokensFrom (lexer : Lexer K) (input : List Char) :
    Nat → Position → Except LexError (List (Token K))
  | 0, _ => .ok []
  | bound + 1, position =>
    match lexer.run input position with
    | .error error => .error error
    | .ok none => .ok []
    | .ok (some (token, next)) =>
      match tokensFrom lexer input bound next with
      | .error error => .error error
      | .ok tokens => .ok (token :: tokens)

/-- All tokens of `input`, or the first error. A token takes at least one byte of the input, so
there are no more tokens than bytes. -/
def tokenize (lexer : Lexer K) (input : List Char) : Except LexError (List (Token K)) :=
  lexer.tokensFrom input (Text.byteLength input) .start

end Lexer

end Lookahead
