import Lookahead.Position

/-!
# Token kinds and tokens

Every type with a lawful total order and a label for each of its elements can serve as the type
of token kinds. Sets of kinds are listed in that order, and messages show a kind by its label.
-/

namespace Lookahead

/-- What a type needs to be a type of token kinds: an order in which sets of kinds are listed,
and the name under which messages show a kind. -/
class TokenKind (K : Type) extends Ord K, Std.TransOrd K, Std.LawfulEqOrd K where
  label : K → String

/-- Two kinds are equal exactly when neither comes before the other. -/
instance (priority := low) TokenKind.decEq {K : Type} [TokenKind K] : DecidableEq K :=
  fun _ _ => decidable_of_iff _ Std.compare_eq_iff_eq

/-- A piece of the input with its kind and the place where it starts. -/
structure Token (K : Type) where
  kind : K
  text : List Char
  position : Position
  deriving DecidableEq, Repr

namespace Token

variable {K : Type}

/-- The place behind the token, where lines end at line feeds. -/
def ending (token : Token K) : Position := token.position.advanceOver '\n' token.text

/-- The place behind the token, for counters. -/
def endingIn (counting : Counting) (token : Token K) : Except Overflow Position :=
  token.position.advanceOverIn counting '\n' token.text

instance [TokenKind K] : ToString (Token K) :=
  ⟨fun token => TokenKind.label token.kind ++ ":" ++ String.ofList token.text⟩

end Token

end Lookahead
