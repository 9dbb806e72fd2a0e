import Lookahead.Lexer.Lexemes
import Lookahead.Proofs.Text.Lines

/-!
# Line ends of all forms

In the text of a lexeme for line ends a carriage return ends a line by itself, unless a line feed
follows it. So lines are counted there as line feeds are, with one more line for each carriage
return that stands alone, and without such returns nothing tells the two manners apart.

Main statements: `Lexeme.advance_eq` and `Lexeme.line_advance`.
-/

namespace Lookahead

/-- How many carriage returns of a text stand alone, with no line feed behind them. -/
def Text.loneReturns : List Char → Nat
  | [] => 0
  | '\r' :: '\n' :: rest => loneReturns rest
  | c :: rest => (if c = '\r' then 1 else 0) + loneReturns rest

theorem Text.loneReturns_of_not_mem {text : List Char} (absent : '\r' ∉ text) :
    loneReturns text = 0 := by
  induction text using loneReturns.induct with
  | case1 => rfl
  | case2 rest ih => exact absurd List.mem_cons_self absent
  | case3 c rest alone ih =>
    obtain ⟨other, later⟩ : ¬ '\r' = c ∧ '\r' ∉ rest := by simpa using absent
    rw [loneReturns.eq_3 _ _ alone, if_neg (Ne.symm other), ih later]

namespace Position

theorem index_advanceLineEnds (position : Position) (text : List Char) :
    (position.advanceLineEnds text).index = position.index + Text.byteLength text := by
  induction position, text using advanceLineEnds.induct with
  | case1 position => rfl
  | case2 position rest ih =>
    have two : '\r'.utf8Size + '\n'.utf8Size = 2 := by decide
    rw [advanceLineEnds, ih, Text.byteLength_cons, Text.byteLength_cons]
    dsimp only
    omega
  | case3 position c rest alone ends ih =>
    rw [advanceLineEnds.eq_3 _ _ _ alone, if_pos ends, ih, Text.byteLength_cons, Nat.add_assoc]
  | case4 position c rest alone other ih =>
    rw [advanceLineEnds.eq_3 _ _ _ alone, if_neg other, ih, Text.byteLength_cons, Nat.add_assoc]

theorem line_advanceLineEnds (position : Position) (text : List Char) :
    (position.advanceLineEnds text).line =
      position.line + text.count '\n' + Text.loneReturns text := by
  induction position, text using advanceLineEnds.induct with
  | case1 position => rfl
  | case2 position rest ih =>
    -- The return and its line feed end one line, which the line feed counts for.
    rw [advanceLineEnds, ih, Text.loneReturns]
    simp
    omega
  | case3 position c rest alone ends ih =>
    rw [advanceLineEnds.eq_3 _ _ _ alone, if_pos ends, ih, Text.loneReturns.eq_3 _ _ alone]
    rcases (by simpa using ends : c = '\r' ∨ c = '\n') with rfl | rfl
    · simp
      omega
    · simp
      omega
  | case4 position c rest alone other ih =>
    rw [advanceLineEnds.eq_3 _ _ _ alone, if_neg other, ih, Text.loneReturns.eq_3 _ _ alone]
    obtain ⟨noReturn, noFeed⟩ : c ≠ '\r' ∧ c ≠ '\n' := by simpa using other
    simp [noReturn, List.count_cons_of_ne noFeed]

/-- Without lone carriage returns line ends of all forms are counted as line feeds are. -/
theorem advanceLineEnds_eq (position : Position) {text : List Char}
    (none : Text.loneReturns text = 0) :
    position.advanceLineEnds text = position.advanceOver '\n' text := by
  induction position, text using advanceLineEnds.induct with
  | case1 position => rfl
  | case2 position rest ih =>
    rw [Text.loneReturns] at none
    rw [advanceLineEnds, ih none]
    rfl
  | case3 position c rest alone ends ih =>
    rw [Text.loneReturns.eq_3 _ _ alone] at none
    obtain ⟨noReturn, others⟩ : c ≠ '\r' ∧ Text.loneReturns rest = 0 := by simpa using none
    -- Of the characters that end lines only the line feed is left.
    obtain rfl : c = '\n' := by simpa [noReturn] using ends
    rw [advanceLineEnds.eq_3 _ _ _ alone, if_pos ends, ih others]
    rfl
  | case4 position c rest alone other ih =>
    rw [Text.loneReturns.eq_3 _ _ alone] at none
    obtain ⟨noReturn, others⟩ : c ≠ '\r' ∧ Text.loneReturns rest = 0 := by simpa using none
    have noFeed : c ≠ '\n' := by
      rintro rfl
      exact other rfl
    rw [advanceLineEnds.eq_3 _ _ _ alone, if_neg other, ih others, advanceOver_cons, advance,
      if_neg noFeed]

end Position

namespace Lexeme

variable {K : Type}

/-- How many carriage returns end a line by themselves in a text of the lexeme. -/
def loneReturns (lexeme : Lexeme K) (text : List Char) : Nat :=
  if lexeme.lineEnding then Text.loneReturns text else 0

theorem loneReturns_of_not_mem {lexeme : Lexeme K} {text : List Char} (absent : '\r' ∉ text) :
    lexeme.loneReturns text = 0 := by
  rw [loneReturns, Text.loneReturns_of_not_mem absent, ite_self]

theorem index_advance (lexeme : Lexeme K) (position : Position) (text : List Char) :
    (lexeme.advance position text).index = position.index + Text.byteLength text := by
  rw [advance]
  split
  · exact position.index_advanceLineEnds text
  · exact position.index_advanceOver '\n' text

theorem line_advance (lexeme : Lexeme K) (position : Position) (text : List Char) :
    (lexeme.advance position text).line =
      position.line + text.count '\n' + lexeme.loneReturns text := by
  rw [advance, loneReturns]
  split
  · exact position.line_advanceLineEnds text
  · exact position.line_advanceOver '\n' text

theorem advance_eq {lexeme : Lexeme K} {text : List Char} (none : lexeme.loneReturns text = 0)
    (position : Position) : lexeme.advance position text = position.advanceOver '\n' text := by
  rw [loneReturns] at none
  rw [advance]
  split
  next ending => exact position.advanceLineEnds_eq (by simpa [ending] using none)
  next => rfl

end Lexeme

end Lookahead
