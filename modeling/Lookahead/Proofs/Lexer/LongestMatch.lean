import Lookahead.Proofs.Grammar.Coherence
import Lookahead.Proofs.Lexer.LineEnds
import Lookahead.Proofs.Lexer.Segmentation
import Lookahead.Proofs.Regex.MatchEnd

/-!
# Tokens are the segments of the input

Reading token by token divides the input into segments one after the other. Where it can be divided
to its end, its tokens are the segments of lexemes that are not skipped. The place of each is made
by going over the segments in front of it, over each in the manner of its lexeme. If the input
cannot be divided to its end, the error is at the place where no lexeme has a match.

Main statements: `LexemeTable.run_answers` and `LexemeTable.tokenize_longest`.
-/

namespace Lookahead

namespace LexemeTable

variable {K : Type} {table : LexemeTable K}

/-! ### The tokens of segments -/

/-- The token of a segment that begins at `position`. -/
def Segment.token? (position : Position) (segment : Segment K) : Option (Token K) :=
  if segment.lexeme.skipped then none else some ⟨segment.lexeme.kind, segment.text, position⟩

/-- The place behind segments, the first of which begins at `position`. -/
def placeBehind (position : Position) : List (Segment K) → Position
  | [] => position
  | segment :: segments => placeBehind (segment.lexeme.advance position segment.text) segments

/-- The tokens of segments, the first of which begins at `position`. -/
def tokensOf (position : Position) : List (Segment K) → List (Token K)
  | [] => []
  | segment :: segments =>
    (segment.token? position).toList ++
      tokensOf (segment.lexeme.advance position segment.text) segments

theorem placeBehind_append (position : Position) (segments others : List (Segment K)) :
    placeBehind position (segments ++ others) =
      placeBehind (placeBehind position segments) others := by
  induction segments generalizing position with
  | nil => rfl
  | cons segment segments ih => exact ih _

theorem tokensOf_append (position : Position) (segments others : List (Segment K)) :
    tokensOf position (segments ++ others) =
      tokensOf position segments ++ tokensOf (placeBehind position segments) others := by
  induction segments generalizing position with
  | nil => rfl
  | cons segment segments ih => simp [tokensOf, placeBehind, ih]

theorem index_placeBehind (position : Position) (segments : List (Segment K)) :
    (placeBehind position segments).index = position.index + Text.byteLength (textOf segments) := by
  induction segments generalizing position with
  | nil => rfl
  | cons segment segments ih =>
    rw [placeBehind, ih, Lexeme.index_advance, textOf_cons, Text.byteLength_append, Nat.add_assoc]

/-! ### What a reading finds -/

/-- From the place between `front` and `text` on, segments lead to a text that is not at its end and
that no lexeme matches, and the error is about this place. -/
def Breaks (table : LexemeTable K) (front : List Char) (position : Position) (text : List Char)
    (error : LexError) : Prop :=
  ∃ segments behind, table.Segmentation behind segments text ∧ behind ≠ [] ∧
    Silent table.lexemes behind ∧
    error = ⟨behind.head?, placeBehind position segments,
      Text.lineAround '\n' (front ++ textOf segments) behind⟩

/-- What an answer says about the segments of `text`, which begins behind `front` at `position`, if
it is right. -/
def Answers (table : LexemeTable K) (front : List Char) (position : Position) (text : List Char) :
    Except LexError (Option (Token K × Position)) → Prop
  | .ok none => ∃ segments, table.Segmentation [] segments text ∧ tokensOf position segments = []
  | .ok (some (token, next)) => ∃ segments behind, table.Segmentation behind segments text ∧
      tokensOf position segments = [token] ∧ next = placeBehind position segments ∧
      behind.length < text.length
  | .error error => table.Breaks front position text error

variable {front middle text : List Char} {position : Position} {segments : List (Segment K)}

theorem Breaks.prepend {error : LexError}
    (breaks : table.Breaks (front ++ textOf segments) (placeBehind position segments) middle error)
    (segmentation : table.Segmentation middle segments text) :
    table.Breaks front position text error := by
  obtain ⟨others, behind, onward, full, silent, rfl⟩ := breaks
  refine ⟨segments ++ others, behind, segmentation.append onward, full, silent, ?_⟩
  rw [placeBehind_append, textOf_append, List.append_assoc]

/-- A segment without a token does not change what is right behind it. -/
theorem Takes.answers_skipped {segment : Segment K} {behind : List Char}
    (takes : table.Takes segment behind) (skipped : segment.lexeme.skipped)
    {answer : Except LexError (Option (Token K × Position))}
    (answers : table.Answers (front ++ segment.text)
      (segment.lexeme.advance position segment.text) behind answer) :
    table.Answers front position (segment.text ++ behind) answer := by
  have silent (others : List (Segment K)) : tokensOf position (segment :: others) =
      tokensOf (segment.lexeme.advance position segment.text) others := by
    rw [tokensOf, Segment.token?, if_pos skipped, Option.toList_none, List.nil_append]
  match answer with
  | .ok none =>
    obtain ⟨others, onward, none⟩ := answers
    exact ⟨segment :: others, .cons takes onward, (silent others).trans none⟩
  | .ok (some (token, next)) =>
    obtain ⟨others, rest, onward, one, rfl, shorter⟩ := answers
    refine ⟨segment :: others, rest, .cons takes onward, (silent others).trans one, rfl, ?_⟩
    rw [List.length_append]
    omega
  | .error error =>
    obtain ⟨others, rest, onward, full, stuck, rfl⟩ := answers
    refine ⟨segment :: others, rest, .cons takes onward, full, stuck, ?_⟩
    rw [textOf_cons, List.append_assoc, placeBehind]

theorem Takes.answers_token {segment : Segment K} {behind : List Char}
    (takes : table.Takes segment behind) (kept : ¬ segment.lexeme.skipped) :
    table.Answers front position (segment.text ++ behind)
      (.ok (some (⟨segment.lexeme.kind, segment.text, position⟩,
        segment.lexeme.advance position segment.text))) := by
  have positive := takes.positive
  refine ⟨[segment], behind, .cons takes .nil, ?_, rfl, ?_⟩
  · rw [tokensOf, Segment.token?, if_neg kept]
    rfl
  · rw [List.length_append]
    omega

theorem takes_of_wins {lexeme : Lexeme K} {length : Nat} (fits : length ≤ text.length)
    (wins : Wins table.lexemes text lexeme length) :
    table.Takes ⟨lexeme, text.take length⟩ (text.drop length) := by
  rw [Takes]
  dsimp only
  rwa [List.take_append_drop, List.length_take, Nat.min_eq_left fits]

/-- A reading finds what the segments behind its place are. -/
theorem read_answers (within : ∀ lexeme ∈ table.lexemes, lexeme.Within) {bound : Nat}
    (placed : position.index = Text.byteLength front) (enough : text.length ≤ bound) :
    table.Answers front position text (table.read (front ++ text) bound position text) := by
  induction bound generalizing front position text with
  | zero =>
    obtain rfl := List.eq_nil_of_length_eq_zero (Nat.le_zero.mp enough)
    exact ⟨[], .nil, rfl⟩
  | succ bound ih =>
    cases text with
    | nil => exact ⟨[], .nil, rfl⟩
    | cons c rest =>
      rw [read, if_neg (by simp)]
      cases found : longest (c :: rest) table.lexemes with
      | none =>
        refine ⟨[], c :: rest, .nil, List.cons_ne_nil c rest, silent_of_longest found, ?_⟩
        rw [LexError.unexpected_of_index placed, textOf, List.flatMap_nil, List.append_nil]
        rfl
      | some pair =>
        obtain ⟨lexeme, length⟩ := pair
        have wins := wins_of_longest found
        have fits := within lexeme wins.member _ length wins.matched
        have takes := takes_of_wins fits wins
        have whole := List.take_append_drop length (c :: rest)
        have positive := wins.positive
        dsimp only
        generalize (c :: rest).take length = taken at takes whole ⊢
        generalize left : (c :: rest).drop length = behind at takes whole ⊢
        rw [← whole]
        split
        next skipped =>
          -- Behind the skipped segment there is less text for the bound that is left.
          refine takes.answers_skipped skipped ?_
          rw [← List.append_assoc]
          refine ih ?_ ?_
          · rw [Lexeme.index_advance, placed, Text.byteLength_append]
          · rw [← left, List.length_drop]
            omega
        next kept => exact takes.answers_token kept

/-- What is read from a place between two characters says what the segments behind it are. -/
theorem run_answers (within : ∀ lexeme ∈ table.lexemes, lexeme.Within)
    (placed : position.index = Text.byteLength front) :
    table.Answers front position text (table.run (front ++ text) position) := by
  rw [run, placed]
  cases text with
  | nil =>
    rw [List.append_nil, Text.seek_byteLength]
    exact ⟨[], .nil, rfl⟩
  | cons c rest =>
    rw [Text.seek_append]
    exact read_answers within placed (Nat.le_refl _)

/-! ### All tokens -/

/-- The tokens are those of segments to the end, or the error is where no segment can be cut off. -/
def Tokenizes (table : LexemeTable K) (front : List Char) (position : Position)
    (text : List Char) : Except LexError (List (Token K)) → Prop
  | .ok tokens => ∃ segments, table.Segmentation [] segments text ∧
      tokens = tokensOf position segments
  | .error error => table.Breaks front position text error

theorem tokensFrom_tokenizes (within : ∀ lexeme ∈ table.lexemes, lexeme.Within) {bound : Nat}
    (placed : position.index = Text.byteLength front) (enough : text.length ≤ bound) :
    table.Tokenizes front position text
      (table.lexer.tokensFrom (front ++ text) bound position) := by
  -- A token takes some of the text, so there is less of it for the bound that is left.
  induction bound generalizing front position text with
  | zero =>
    obtain rfl := List.eq_nil_of_length_eq_zero (Nat.le_zero.mp enough)
    exact ⟨[], .nil, rfl⟩
  | succ bound ih =>
    have answers : table.Answers front position text (table.lexer.run (front ++ text) position) :=
      run_answers within placed
    rw [Lexer.tokensFrom]
    split
    next error failed =>
      rw [failed] at answers
      exact answers
    next ended =>
      rw [ended] at answers
      obtain ⟨segments, segmentation, none⟩ := answers
      exact ⟨segments, segmentation, none.symm⟩
    next token next found =>
      rw [found] at answers
      obtain ⟨segments, behind, segmentation, one, rfl, shorter⟩ := answers
      have placed' : (placeBehind position segments).index =
          Text.byteLength (front ++ textOf segments) := by
        rw [index_placeBehind, placed, Text.byteLength_append]
      have enough' : behind.length ≤ bound := by omega
      have later := ih placed' enough'
      rw [List.append_assoc, segmentation.textOf_append] at later
      split
      next error failed =>
        rw [failed] at later
        exact Breaks.prepend later segmentation
      next tokens succeeded =>
        rw [succeeded] at later
        obtain ⟨others, onward, rfl⟩ := later
        refine ⟨segments ++ others, segmentation.append onward, ?_⟩
        rw [tokensOf_append, one, List.singleton_append]

theorem bare_nil : table.Bare [] := Or.inl rfl

/-- A text that breaks off cannot be divided to its end. -/
theorem Breaks.not_segmentation {error : LexError}
    (breaks : table.Breaks front position text error) (segments : List (Segment K)) :
    ¬ table.Segmentation [] segments text := by
  intro segmentation
  obtain ⟨others, behind, broken, full, silent, -⟩ := breaks
  obtain ⟨-, same⟩ := segmentation.unique bare_nil broken (Or.inr silent)
  exact full same.symm

theorem Breaks.unique {error error' : LexError}
    (breaks : table.Breaks front position text error)
    (breaks' : table.Breaks front position text error') : error = error' := by
  obtain ⟨segments, behind, segmentation, full, silent, rfl⟩ := breaks
  obtain ⟨segments', behind', segmentation', full', silent', rfl⟩ := breaks'
  obtain ⟨rfl, rfl⟩ := segmentation.unique (Or.inr silent) segmentation' (Or.inr silent')
  rfl

theorem tokenize_tokenizes (within : ∀ lexeme ∈ table.lexemes, lexeme.Within)
    (input : List Char) :
    table.Tokenizes [] .start input (table.lexer.tokenize input) :=
  tokensFrom_tokenizes within rfl (Text.length_le_byteLength input)

/-- Only one answer is right, since there is one way to divide a text. -/
theorem Tokenizes.unique {answer answer' : Except LexError (List (Token K))}
    (tokenizes : table.Tokenizes front position text answer)
    (tokenizes' : table.Tokenizes front position text answer') : answer = answer' := by
  cases answer with
  | ok tokens =>
    obtain ⟨segments, segmentation, rfl⟩ := tokenizes
    cases answer' with
    | ok tokens' =>
      obtain ⟨segments', segmentation', rfl⟩ := tokenizes'
      obtain ⟨rfl, -⟩ := segmentation.unique bare_nil segmentation' bare_nil
      rfl
    | error error => exact absurd segmentation (Breaks.not_segmentation tokenizes' segments)
  | error error =>
    cases answer' with
    | ok tokens =>
      obtain ⟨segments, segmentation, -⟩ := tokenizes'
      exact absurd segmentation (Breaks.not_segmentation tokenizes segments)
    | error error' => rw [Breaks.unique tokenizes tokenizes']

/-- All tokens of an input are found exactly if segments lead to its end, each of which is a longest
match and belongs to the first lexeme with such a match. They are the tokens of these segments.
Otherwise the error is at the place where the segments end, since no lexeme has a match there that
is not empty. -/
theorem tokenize_longest (table : LexemeTable K)
    (within : ∀ lexeme ∈ table.lexemes, lexeme.Within) (input : List Char) :
    (∀ tokens, table.lexer.tokenize input = .ok tokens ↔
      ∃ segments, table.Segmentation [] segments input ∧ tokens = tokensOf .start segments) ∧
    ∀ error, table.lexer.tokenize input = .error error ↔
      ∃ segments behind, table.Segmentation behind segments input ∧ behind ≠ [] ∧
        Silent table.lexemes behind ∧
        error = ⟨behind.head?, placeBehind .start segments,
          Text.lineAround '\n' (textOf segments) behind⟩ := by
  have found := tokenize_tokenizes within input
  have only (answer : Except LexError (List (Token K))) :
      table.lexer.tokenize input = answer ↔ table.Tokenizes [] .start input answer := by
    constructor
    · rintro rfl
      exact found
    · exact found.unique
  exact ⟨fun tokens => only (.ok tokens), fun error => only (.error error)⟩

end LexemeTable

namespace Sample

/-- A keyword, words, and line ends that are passed over. -/
def lineLexemes : List (LexemeDeclaration Mark) :=
  [⟨.opening, "let", false, false⟩, ⟨.word, "[a-z]+", false, false⟩,
    ⟨.comma, "[\\r\\n]+", true, true⟩]

end Sample

/-- The keyword is found where no word is longer, and a word where the keyword only begins it. -/
theorem LexemeTable.tokenize_longest_lines :
    ∃ table, (LexemeTable.build Sample.lineLexemes).value = some table ∧
      ∃ segments, table.Segmentation [] segments "let\r\nlets".toList ∧
        [⟨.opening, "let".toList, ⟨0, 1, 1⟩⟩, ⟨.word, "lets".toList, ⟨5, 2, 1⟩⟩] =
          tokensOf .start segments := by
  have computed : ((LexemeTable.build Sample.lineLexemes).value.bind fun table =>
      (table.lexer.tokenize "let\r\nlets".toList).toOption) =
      some [⟨.opening, "let".toList, ⟨0, 1, 1⟩⟩, ⟨.word, "lets".toList, ⟨5, 2, 1⟩⟩] := by
    decide +kernel
  obtain ⟨table, built, tokenized⟩ := Option.bind_eq_some_iff.mp computed
  have within := within_of_build built
  refine ⟨table, built, ((table.tokenize_longest within _).1 _).mp ?_⟩
  cases answer : table.lexer.tokenize "let\r\nlets".toList with
  | error error =>
    rw [answer] at tokenized
    cases tokenized
  | ok tokens =>
    rw [answer] at tokenized
    cases tokenized
    rfl

end Lookahead
