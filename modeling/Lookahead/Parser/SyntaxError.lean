import Lookahead.KindSet
import Lookahead.Lexer.LexError

/-!
# Syntax errors

Why a parse stopped, and how that is told: as a message alone, or under the line of the input
that it points into.
-/

namespace Lookahead

/-- Why a parse stopped. -/
inductive SyntaxError (K : Type) where
  /-- The rule wanted one of the kinds expected, and found another token. -/
  | unexpectedToken (expected : List K) (found : Token K) (rule : String)
  /-- The rule wanted one of the kinds expected where the tokens ended. -/
  | unexpectedEnd (expected : List K) (position : Position) (rule : String)
  /-- The input could not be read as tokens. -/
  | lexical (error : LexError)
  /-- There is no rule of that name. -/
  | unknownRule (rule : String)
  /-- Rules called one another too often without reading a token. -/
  | unboundedNesting (rule : String)
  deriving DecidableEq, Repr

namespace SyntaxError

variable {K : Type}

/-- The place in the input that the error points to. -/
def position? : SyntaxError K → Option Position
  | .unexpectedToken _ found _ => some found.position
  | .unexpectedEnd _ position _ => some position
  | .lexical error => some error.position
  | .unknownRule _ => none
  | .unboundedNesting _ => none

/-- The kinds that could have come next. -/
def expected : SyntaxError K → List K
  | .unexpectedToken expected _ _ => expected
  | .unexpectedEnd expected _ _ => expected
  | _ => []

/-- The lexical error behind the syntax error. -/
def source? : SyntaxError K → Option LexError
  | .lexical error => some error
  | _ => none

variable [TokenKind K]

/-- The kinds that could have come next, in words. -/
def expectation : List K → String
  | [] => "nothing"
  | [only] => TokenKind.label only
  | several => "one of " ++ ", ".intercalate (several.map TokenKind.label)

/-- The message of the error. -/
def describe (paint : Text.Paint) : SyntaxError K → String
  | .unexpectedToken expected found rule =>
    let what := "unexpected " ++ TokenKind.label found.kind ++ " `" ++
      String.ofList found.text ++ "`"
    "Syntax Error: " ++ paint.apply .red what ++ " at " ++ toString found.position ++
      " while parsing " ++ paint.apply .brightBlue rule ++ "; expected " ++ expectation expected
  | .unexpectedEnd expected position rule =>
    "Syntax Error: " ++ paint.apply .red "unexpected end of input" ++ " at " ++
      toString position ++ " while parsing " ++ paint.apply .brightBlue rule ++
      "; expected " ++ expectation expected
  | .lexical error => error.describe paint
  | .unknownRule rule =>
    "Syntax Error: " ++ paint.apply .red "no rule named" ++ " `" ++ rule ++ "`"
  | .unboundedNesting rule =>
    "Syntax Error: " ++ paint.apply .red "no end of nested rules" ++ " while parsing " ++
      paint.apply .brightBlue rule

/-- The line of `input` that the error points into, a caret under the place, and the message;
the message alone where there is no place, or where the message shows the line already. Lines
end at `lineBreak`. -/
def render (paint : Text.Paint) (error : SyntaxError K) (input : List Char) (lineBreak : Char) :
    String :=
  let below (position : Position) : String :=
    let line := ((Text.lines lineBreak input)[position.line - 1]?).getD []
    String.ofList (Text.trimReturns line) ++ "\n" ++
      String.ofList (List.replicate (position.column - 1) ' ') ++ paint.apply .red "^" ++ "\n" ++
      error.describe paint
  match error with
  | .unexpectedToken _ found _ => below found.position
  | .unexpectedEnd _ position _ => below position
  | _ => error.describe paint

end SyntaxError

end Lookahead
