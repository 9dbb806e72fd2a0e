import Lookahead.Failure
import Lookahead.Tree

/-!
# The result of a parse
-/

namespace Lookahead

/-- The outcome of a parse: a tree or an error. A tree need not cover all tokens. -/
structure ParseResult (K V : Type) where
  root : Option (Tree K V)
  errors : List (SyntaxError K)
  /-- The number of tokens that were read. -/
  endingPosition : Nat
  /-- Whether there is a tree and it covers all tokens. -/
  isEnded : Bool

namespace ParseResult

variable {K V : Type}

/-- A parse that stopped at an error. -/
def failed (error : SyntaxError K) (endingPosition : Nat) : ParseResult K V :=
  ⟨none, [error], endingPosition, false⟩

/-- Whether the parse stopped at an error. -/
def isError (result : ParseResult K V) : Bool := !result.errors.isEmpty

/-- The value of the root. -/
def value? (result : ParseResult K V) : Option V := result.root.bind Tree.value?

/-- The tree, if it covers all tokens. -/
def toExcept (result : ParseResult K V) : Except (Failure K) (Tree K V) :=
  match result.errors with
  | error :: _ => .error (.syntactic error)
  | [] =>
    match result.root with
    | some root => if result.isEnded then .ok root else .error (.incomplete result.endingPosition)
    | none => .error (.incomplete result.endingPosition)

end ParseResult

end Lookahead
