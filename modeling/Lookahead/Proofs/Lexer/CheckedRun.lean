import Lookahead.Lexer.Rounds
import Lookahead.Proofs.Text.Slicing

/-!
# Loops that come to an end

A loop has an answer only if it comes to an end and none of its rounds fails. The rounds of a run
cut the input, and where the cuts are made between two parts of it they have the results that
they should have.
-/

namespace Lookahead

/-! ### Loops -/

/-- From here the loop comes to an end with the answer. There is no answer if a round fails or if
the rounds never end. -/
inductive Round.Ends {S A : Type} (round? : S → Option (Round S A)) :
    Option (Round S A) → A → Prop
  | done {answer : A} : Ends round? (some (.done answer)) answer
  | again {state : S} {answer : A} :
      Ends round? (round? state) answer → Ends round? (some (.again state)) answer

namespace LexError

variable {front back : List Char} {position : Position}

theorem cut?_append (lineBreak : Char) (placed : position.index = Text.byteLength front) :
    cut? (front ++ back) lineBreak position =
      some (.unexpected (front ++ back) lineBreak position) := by
  -- The line is in the middle, since its ends are line breaks or the ends of the input.
  have before := front.reverse.takeWhile_append_dropWhile (p := (· != lineBreak))
  have after := back.takeWhile_append_dropWhile (p := (· != lineBreak))
  rw [cut?, unexpected, placed, Text.splitAt?_byteLength, Text.splitAtByte_byteLength]
  dsimp only [Option.bind_eq_bind, Option.bind_some, Text.lineAround]
  generalize front.reverse.takeWhile (· != lineBreak) = line at before ⊢
  generalize front.reverse.dropWhile (· != lineBreak) = others at before ⊢
  generalize back.takeWhile (· != lineBreak) = rest at after ⊢
  generalize back.dropWhile (· != lineBreak) = behind at after
  have split : front = others.reverse ++ line.reverse := by
    rw [← List.reverse_append, before, List.reverse_reverse]
  have cut := Text.slice?_append others.reverse (line.reverse ++ rest) behind
  rw [Text.byteLength_append, ← Nat.add_assoc, ← Text.byteLength_append, ← split,
    List.append_assoc, after, ← List.append_assoc, ← split] at cut
  rw [cut]
  rfl

theorem misaligned?_inside {c : Char} (behind : Text.byteLength front < position.index)
    (short : position.index < Text.byteLength front + c.utf8Size) :
    misaligned? (front ++ c :: back) position = some (.misaligned c position) := by
  rw [misaligned?, Text.boundaryBefore_inside behind (Nat.le_of_lt short),
    Text.splitAt?_byteLength]
  rfl

end LexError

/-! ### All tokens -/

namespace Lexer

variable {K : Type}

/-- One round of reading all tokens, after `tokens` and at `position`. -/
def tokenRound? (lexer : Lexer K) (input : List Char) :
    List (Token K) × Position →
      Option (Round (List (Token K) × Position) (Except LexError (List (Token K))))
  | (tokens, position) =>
    match lexer.run input position with
    | .error error => some (.done (.error error))
    | .ok none => some (.done (.ok tokens))
    | .ok (some (token, next)) => some (.again (tokens ++ [token], next))

end Lexer

end Lookahead
