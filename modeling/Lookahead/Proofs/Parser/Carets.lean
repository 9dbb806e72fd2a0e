import Lookahead.Proofs.Lexer.LongestMatch
import Lookahead.Proofs.Parser.ErrorPlaces
import Mathlib.Algebra.Ring.Nat
import Mathlib.Data.List.DropRight

/-!
# Carets under regex-lexed errors

A lexer made of regular expressions ends a line at a carriage return that stands alone in a lexeme
for line ends, while the line that is shown with an error is cut at line feeds. The position of a
place counts line feeds just if no such return is in front of the place. Then the caret is under the
character that the error is about, unless this character belongs to a line end itself.

Main statement: `Parser.carets_placed`.
-/

namespace Lookahead

/-! ### Characters of a line -/

namespace Text

/-- Only carriage returns are taken away from the end of a line. -/
theorem getElem?_trimReturns {text : List Char} {index : Nat} {c : Char}
    (found : text[index]? = some c) (kept : c ≠ '\r') : (trimReturns text)[index]? = some c := by
  have trimmed : trimReturns text = text.rdropWhile (· == '\r') := rfl
  rw [trimmed]
  induction text using List.reverseRecOn with
  | nil => cases found
  | append_singleton rest last ih =>
    by_cases drops : last = '\r'
    · -- The character is not the one that goes, so it is in what is left.
      rw [List.rdropWhile_concat_pos _ _ _ (by simpa using drops)]
      apply ih _ rfl
      rw [List.getElem?_append] at found
      split at found
      next => exact found
      next =>
        rw [List.getElem?_singleton] at found
        split at found
        next =>
          cases found
          exact absurd drops kept
        next => cases found
    · rwa [List.rdropWhile_concat_neg _ _ _ (by simpa using drops)]

/-- The line around a place has the character behind the place where the text in front of the place
has its end. -/
theorem getElem?_lineAround {lineBreak c : Char} (front rest : List Char) (other : c ≠ lineBreak)
    (kept : c ≠ '\r') :
    (lineAround lineBreak front (c :: rest))[(lastLine lineBreak front).length]? = some c := by
  refine getElem?_trimReturns ?_ kept
  rw [List.takeWhile_cons_of_pos (by simpa using other)]
  rw [← lastLine, List.getElem?_append_right (Nat.le_refl _), Nat.sub_self]
  rfl

end Text

/-- The character of the shown line in the column of the position is the first one of the text, if
this does not belong to a line end. -/
def Position.Marks (position : Position) (shown text : List Char) : Prop :=
  ∀ c ∈ text.head?, c ≠ '\r' → c ≠ '\n' → shown[position.column - 1]? = some c

/-- A position that counts line feeds marks the line around its place. -/
theorem Position.marks_lineAround (front behind : List Char) :
    (start.advanceOver '\n' front).Marks (Text.lineAround '\n' front behind) behind := by
  intro c begins kept other
  obtain ⟨rest, rfl⟩ := List.head?_eq_some_iff.mp begins
  rw [(getElem?_lines '\n' front (c :: rest)).2]
  exact Text.getElem?_lineAround front rest other kept

namespace LexemeTable

variable {K : Type} {table : LexemeTable K}

/-! ### Lone carriage returns -/

/-- How many carriage returns end a line by themselves in the segments. -/
def loneReturns (segments : List (Segment K)) : Nat :=
  (segments.map fun segment => segment.lexeme.loneReturns segment.text).sum

theorem line_placeBehind (position : Position) (segments : List (Segment K)) :
    (placeBehind position segments).line =
      position.line + (textOf segments).count '\n' + loneReturns segments := by
  induction segments generalizing position with
  | nil => rfl
  | cons segment segments ih =>
    rw [placeBehind, ih, Lexeme.line_advance, textOf_cons, List.count_append, loneReturns,
      loneReturns, List.map_cons, List.sum_cons]
    omega

theorem placeBehind_eq (position : Position) {segments : List (Segment K)}
    (none : loneReturns segments = 0) :
    placeBehind position segments = position.advanceOver '\n' (textOf segments) := by
  induction segments generalizing position with
  | nil => rfl
  | cons segment segments ih =>
    rw [loneReturns, List.map_cons, List.sum_cons] at none
    obtain ⟨here, later⟩ := Nat.add_eq_zero_iff.mp none
    rw [placeBehind, Lexeme.advance_eq here, ih _ later, textOf_cons, Position.advanceOver_append]

/-- The place behind segments counts line feeds just if no carriage return ended a line. -/
theorem placeBehind_eq_iff (position : Position) (segments : List (Segment K)) :
    placeBehind position segments = position.advanceOver '\n' (textOf segments) ↔
      loneReturns segments = 0 := by
  constructor
  · intro same
    have lines := congrArg Position.line same
    rw [line_placeBehind, Position.line_advanceOver] at lines
    omega
  · exact placeBehind_eq position

theorem loneReturns_of_not_mem {segments : List (Segment K)} (absent : '\r' ∉ textOf segments) :
    loneReturns segments = 0 := by
  induction segments with
  | nil => rfl
  | cons segment segments ih =>
    rw [textOf_cons, List.mem_append, not_or] at absent
    rw [loneReturns, List.map_cons, List.sum_cons, Lexeme.loneReturns_of_not_mem absent.1,
      Nat.zero_add]
    exact ih absent.2

/-! ### Tokens among segments -/

theorem Segmentation.split {rest text : List Char} {segments others : List (Segment K)}
    (segmentation : table.Segmentation rest (segments ++ others) text) :
    ∃ middle, table.Segmentation middle segments text ∧
      table.Segmentation rest others middle := by
  induction segments generalizing text with
  | nil => exact ⟨text, .nil, segmentation⟩
  | cons segment segments ih =>
    cases segmentation with
    | cons takes onward =>
      obtain ⟨middle, front, back⟩ := ih onward
      exact ⟨middle, .cons takes front, back⟩

theorem exists_segments_of_mem_tokensOf {position : Position} {segments : List (Segment K)}
    {token : Token K} (member : token ∈ tokensOf position segments) :
    ∃ before segment after, segments = before ++ segment :: after ∧
      token.text = segment.text ∧ token.position = placeBehind position before := by
  induction segments generalizing position with
  | nil => cases member
  | cons segment segments ih =>
    rw [tokensOf, List.mem_append, Option.mem_toList] at member
    rcases member with here | later
    · rw [Segment.token?] at here
      split at here
      next => cases here
      next =>
        cases here
        exact ⟨[], segment, segments, rfl, rfl, rfl⟩
    · obtain ⟨before, found, after, rfl, same, placed⟩ := ih later
      exact ⟨segment :: before, found, after, rfl, same, placed⟩

/-- In front of a token the input is divided into segments, and the token has the place behind
them. -/
theorem exists_segmentation_of_mem (within : ∀ lexeme ∈ table.lexemes, lexeme.Within)
    {input : List Char} {tokens : List (Token K)}
    (tokenized : table.lexer.tokenize input = .ok tokens) {token : Token K}
    (member : token ∈ tokens) :
    ∃ segments behind, table.Segmentation (token.text ++ behind) segments input ∧
      token.position = placeBehind .start segments := by
  have found := tokenize_tokenizes within input
  rw [tokenized] at found
  obtain ⟨segments, segmentation, rfl⟩ := found
  obtain ⟨before, segment, after, rfl, same, placed⟩ := exists_segments_of_mem_tokensOf member
  obtain ⟨middle, front, back⟩ := segmentation.split
  cases back with
  | @cons _ _ behind _ _ =>
    rw [same]
    exact ⟨before, behind, front, placed⟩

end LexemeTable

variable {K V C : Type} [TokenKind K]

open LexemeTable in
/-- Of a lexer made of regular expressions, a lexical error has the place behind the segments in
front of it, and so has a token at which a parse stops. If no carriage return ends a line by itself
in these segments, and only then, this is the place that counts line feeds, and an error about the
token points there. Then the caret is under the first character that is in the way, unless it
belongs to a line end. -/
theorem Parser.carets_placed (parser : Parser K V C) (table : LexemeTable K)
    (reads : parser.lexer = table.lexer) (within : ∀ lexeme ∈ table.lexemes, lexeme.Within)
    (input : List Char) (rule : String) (context : C) :
    (∀ failure, table.lexer.tokenize input = .error failure →
      ∃ segments behind, table.Segmentation behind segments input ∧
        failure.character = behind.head? ∧ failure.position = placeBehind .start segments ∧
        (failure.position = Position.start.advanceOver '\n' (textOf segments) ↔
          loneReturns segments = 0) ∧
        (loneReturns segments = 0 → failure.position.Marks failure.line behind)) ∧
    ∀ expected found name,
      .unexpectedToken expected found name ∈ (parser.parseRule input rule context).1.errors →
      let error := SyntaxError.unexpectedToken expected found name
      ∃ segments behind, table.Segmentation (found.text ++ behind) segments input ∧
        found.position = placeBehind .start segments ∧
        let line := Text.lineAround '\n' (textOf segments) (found.text ++ behind)
        (error.PointsTo '\n' (textOf segments) (found.text ++ behind) ↔
          loneReturns segments = 0) ∧
        (loneReturns segments = 0 → found.position.Marks line found.text) := by
  constructor
  · intro failure failed
    have answer := tokenize_tokenizes within input
    rw [failed] at answer
    obtain ⟨segments, behind, segmentation, -, -, rfl⟩ := answer
    refine ⟨segments, behind, segmentation, rfl, rfl, placeBehind_eq_iff _ _, fun none => ?_⟩
    dsimp only
    rw [placeBehind_eq _ none]
    exact Position.marks_lineAround (textOf segments) behind
  · intro expected found name member error
    rcases Parser.concerns_of_mem_errors member with ⟨_, _, lexical⟩ | ⟨tokens, tokenized, concerns⟩
    · cases lexical
    · cases concerns with
      | token among =>
        rw [reads] at tokenized
        obtain ⟨segments, behind, segmentation, placed⟩ :=
          exists_segmentation_of_mem within tokenized among
        refine ⟨segments, behind, segmentation, placed, ?_, fun none => ?_⟩
        · rw [← placeBehind_eq_iff .start segments, ← placed]
          constructor
          · intro points
            exact Option.some.inj points.placed
          · intro same
            have placed' : error.position? =
                some (Position.start.advanceOver '\n' (textOf segments)) := congrArg some same
            exact SyntaxError.pointsTo_of_position? rfl placed' (found.text ++ behind)
        · rw [placed, placeBehind_eq _ none]
          intro c begins
          refine Position.marks_lineAround (textOf segments) (found.text ++ behind) c ?_
          rw [Option.mem_def] at begins ⊢
          rw [List.head?_append, begins]
          rfl

/-- Where lines end at line feeds the caret is under the character that no lexeme matches. -/
theorem Parser.carets_placed_lines :
    ∃ table, (LexemeTable.build Sample.lineLexemes).value = some table ∧
      ∃ failure, table.lexer.tokenize "a\n?".toList = .error failure ∧
        failure.position.Marks failure.line failure.character.toList := by
  have computed : ((LexemeTable.build Sample.lineLexemes).value.map fun table =>
      table.lexer.tokenize "a\n?".toList) = some (.error ⟨some '?', ⟨2, 2, 1⟩, ['?']⟩) := by
    decide +kernel
  obtain ⟨table, built, failed⟩ := Option.map_eq_some_iff.mp computed
  obtain ⟨segments, behind, segmentation, same, -, -, marks⟩ :=
    (Parser.carets_placed ⟨Sample.grammar, table.lexer, "list"⟩ table rfl
      (LexemeTable.within_of_build built) "a\n?".toList "list" ()).1 _ failed
  -- There is no carriage return in the input, and so none in front of the error.
  have absent : '\r' ∉ LexemeTable.textOf segments ++ behind := by
    rw [segmentation.textOf_append]
    decide
  rw [List.mem_append, not_or] at absent
  refine ⟨table, built, _, failed, ?_⟩
  intro c begins
  apply marks (LexemeTable.loneReturns_of_not_mem absent.1) c
  rwa [← same]

/-- Behind a carriage return that ends a line by itself the caret is under the first character of
the line before. -/
theorem Parser.carets_misplaced_return :
    ∃ table, (LexemeTable.build Sample.lineLexemes).value = some table ∧
      ∃ failure, table.lexer.tokenize "a\r?".toList = .error failure ∧
        failure.character = some '?' ∧ failure.line[failure.position.column - 1]? = some 'a' := by
  have computed : ((LexemeTable.build Sample.lineLexemes).value.map fun table =>
      table.lexer.tokenize "a\r?".toList) =
      some (.error ⟨some '?', ⟨2, 2, 1⟩, ['a', '\r', '?']⟩) := by
    decide +kernel
  obtain ⟨table, built, failed⟩ := Option.map_eq_some_iff.mp computed
  exact ⟨table, built, _, failed, rfl, rfl⟩

end Lookahead
