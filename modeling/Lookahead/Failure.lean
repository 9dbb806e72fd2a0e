import Lookahead.Build
import Lookahead.Parser.SyntaxError

/-!
# Failures

One type for everything that can go wrong between the text of a grammar and the tree of an
input, for callers that want no more than a message.
-/

namespace Lookahead

/-- Anything that can go wrong. -/
inductive Failure (K : Type) where
  /-- The input could not be read as tokens. -/
  | lexical (error : LexError)
  /-- The tokens could not be parsed. -/
  | syntactic (error : SyntaxError K)
  /-- The parse ended in front of the token of that number. -/
  | incomplete (tokens : Nat)
  /-- A grammar, a lexer or a parser could not be built. -/
  | unbuilt (diagnostics : List Diagnostic)
  deriving DecidableEq, Repr

/-- The message of a failure; of the diagnostics only the fatal ones are told. -/
def Failure.describe {K : Type} [TokenKind K] (paint : Text.Paint) : Failure K → String
  | .lexical error => error.describe paint
  | .syntactic error => error.describe paint
  | .incomplete tokens => "Syntax Error: input left over after token " ++ toString tokens
  | .unbuilt diagnostics =>
    Text.joinLines ((diagnostics.filter Diagnostic.isFatal).map (·.describe paint))

/-- The lexical error behind a failure to read the input. -/
def Failure.source? {K : Type} : Failure K → Option LexError
  | .lexical error => some error
  | _ => none

/-- What was built, or the diagnostics as a failure. -/
def Build.toExcept {α K : Type} (build : Build α) : Except (Failure K) α :=
  match build.value with
  | some value => .ok value
  | none => .error (.unbuilt build.diagnostics)

end Lookahead
