import Lookahead.Lexer.Basic

/-!
# Token streams

The tokens of an input can be asked for one by one. Nothing is read before it is asked for.
-/

namespace Lookahead

/-- The tokens of an input one by one. A stream ends at the end of the input or behind its
first error. -/
structure TokenStream (K : Type) where
  lexer : Lexer K
  input : List Char
  /-- Where the next token is read. -/
  position : Position
  finished : Bool

namespace TokenStream

variable {K : Type}

/-- The stream of the tokens of `input`. -/
def ofInput (lexer : Lexer K) (input : List Char) : TokenStream K :=
  ⟨lexer, input, .start, false⟩

/-- The next token or the error in its place, if there is one, and the stream behind it. -/
def next (stream : TokenStream K) : Option (Except LexError (Token K)) × TokenStream K :=
  if stream.finished then (none, stream)
  else
    match stream.lexer.run stream.input stream.position with
    | .ok (some (token, position)) => (some (.ok token), { stream with position })
    | .ok none => (none, { stream with finished := true })
    | .error error => (some (.error error), { stream with finished := true })

end TokenStream

end Lookahead
