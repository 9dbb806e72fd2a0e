import Lookahead.Lexer.TokenStream
import Lookahead.Proofs.Lexer.Tokenization
import Lookahead.Proofs.Text.Lines

/-!
# Positions of tokens and errors

Positions are moved along over what is passed over, over skipped lexemes and over the lexemes of
tokens. Still every position that comes out counts the whole text in front of it, whether the tokens
are asked for all at once or one by one. An error shows the character at its position and the line
that its position names, though this line is found around the position and not by counting.

Main statement: `Automaton.positions_accurate`.
-/

namespace Lookahead

namespace TokenStream

variable {K : Type}

/-- The stream when it has been asked so many times. -/
def drop (stream : TokenStream K) : Nat → TokenStream K
  | 0 => stream
  | count + 1 => (stream.drop count).next.2

end TokenStream

namespace Automaton

variable {K : Type} {automaton : Automaton K} {input : List Char}

/-! ### What is right of a token and of an error -/

/-- The token comes from a place of the input. A lexeme stands there, and the token has the kind of
the state that it leads to, the text of the lexeme and the position of the place, all as the
callback changes them if there is one. -/
def Emits (automaton : Automaton K) (input : List Char) (token : Token K) : Prop :=
  ∃ front lexeme behind ending position, input = front ++ (lexeme ++ behind) ∧
    automaton.Fits behind (.lexeme lexeme ending) ∧
    position.Counts automaton.lineBreak front ∧
    token = ending.callback.getD id ⟨ending.kind, lexeme, position⟩

/-- The error is about a place of the input. It tells the character behind this place, which is
missing at the end only, and the line that its position names. -/
def Reports (automaton : Automaton K) (input : List Char) (error : LexError) : Prop :=
  ∃ front behind, input = front ++ behind ∧
    error.position.Counts automaton.lineBreak front ∧ error.character = behind.head? ∧
    (error.character = none ↔ error.position.index = Text.byteLength input) ∧
    ∃ line, (Text.lines automaton.lineBreak input)[error.position.line - 1]? = some line ∧
      error.line = Text.trimReturns line

theorem counts_place (automaton : Automaton K) (front : List Char) :
    (automaton.place front).Counts automaton.lineBreak front :=
  Position.counts_start_advanceOver automaton.lineBreak front

/-- The tokens of tiles come from the places of the tiles. -/
theorem Tiling.emits_of_mem_tokensOf {rest text front : List Char} {tiles : List (Tile K)}
    (tiling : automaton.Tiling rest tiles text) {token : Token K}
    (member : token ∈ automaton.tokensOf front tiles) : automaton.Emits (front ++ text) token := by
  obtain ⟨before, lexeme, behind, ending, split, fits, -, made⟩ :=
    tiling.exists_fits_of_mem_tokensOf member
  exact ⟨before, lexeme, behind, ending, automaton.place before, split, fits,
    automaton.counts_place before, made⟩

/-- Where the tiles break off, the error is about the place where the automaton gets stuck. -/
theorem Breaks.reports {front text : List Char} {error : LexError}
    (breaks : automaton.Breaks front text error) : automaton.Reports (front ++ text) error := by
  obtain ⟨tiles, lexeme, behind, tiling, -, rfl⟩ := breaks
  have split : front ++ text = front ++ textOf tiles ++ lexeme ++ behind := by
    rw [← tiling.textOf_append]
    simp
  have counts := automaton.counts_place (front ++ textOf tiles ++ lexeme)
  rw [split]
  generalize front ++ textOf tiles ++ lexeme = before at counts ⊢
  refine ⟨before, behind, rfl, counts, rfl, ?_, ?_⟩
  · -- Every character has a byte, so only nothing has none.
    have bytes := counts.index
    cases behind with
    | nil => simp [bytes]
    | cons c rest =>
      have positive := c.utf8Size_pos
      simp [bytes]
      omega
  · have number : (automaton.place before).line - 1 = before.count automaton.lineBreak := by
      rw [counts.line]
      omega
    refine ⟨Text.lastLine automaton.lineBreak before ++
      behind.takeWhile (· != automaton.lineBreak), ?_, rfl⟩
    dsimp only
    rw [number]
    exact Text.getElem?_lines_count automaton.lineBreak before behind

/-! ### Streams -/

/-- A stream of the tokens of an input stands at a place of the input. -/
structure Follows (automaton : Automaton K) (input : List Char) (stream : TokenStream K) :
    Prop where
  same_lexer : stream.lexer = automaton.lexer
  same_input : stream.input = input
  place : ∃ front behind, input = front ++ behind ∧ stream.position = automaton.place front

/-- What a stream gives is right. -/
def Accounts (automaton : Automaton K) (input : List Char) :
    Option (Except LexError (Token K)) → Prop
  | some (.ok token) => automaton.Emits input token
  | some (.error error) => automaton.Reports input error
  | none => True

/-- Asked once, a stream gives what is right and stands at a place again. -/
theorem Follows.next {stream : TokenStream K} (follows : automaton.Follows input stream) :
    automaton.Accounts input stream.next.1 ∧ automaton.Follows input stream.next.2 := by
  obtain ⟨lexer, source, position, finished⟩ := stream
  obtain ⟨rfl, rfl, front, behind, rfl, rfl⟩ := follows
  have stays : ∃ before after, front ++ behind = before ++ after ∧
      automaton.place front = automaton.place before := ⟨front, behind, rfl, rfl⟩
  cases finished with
  | true => exact ⟨trivial, rfl, rfl, stays⟩
  | false =>
    have answers := automaton.run_answers front behind
    simp only [TokenStream.next, Automaton.lexer]
    cases answer : automaton.run (front ++ behind) (automaton.place front) with
    | error error =>
      rw [answer] at answers
      exact ⟨Breaks.reports answers, rfl, rfl, stays⟩
    | ok found =>
      rw [answer] at answers
      cases found with
      | none => exact ⟨trivial, rfl, rfl, stays⟩
      | some pair =>
        obtain ⟨token, next⟩ := pair
        obtain ⟨tiles, rest, tiling, one, rfl, -⟩ := answers
        have member : token ∈ automaton.tokensOf front tiles := by
          rw [one]
          exact List.mem_singleton_self token
        refine ⟨tiling.emits_of_mem_tokensOf member, rfl, rfl, front ++ textOf tiles, rest, ?_, rfl⟩
        rw [List.append_assoc, tiling.textOf_append]

theorem follows_drop (automaton : Automaton K) (input : List Char) (count : Nat) :
    automaton.Follows input ((TokenStream.ofInput automaton.lexer input).drop count) := by
  induction count with
  | zero => exact ⟨rfl, rfl, [], input, rfl, rfl⟩
  | succ count ih => exact ih.next.2

/-! ### All positions -/

/-- Every position that the automaton gives a token, returns as the next place to read at, or puts
into an error counts the text in front of it, and an error tells the character at its position and
the line of that number. This holds of the tokens of the whole input and of an error in their place,
and of a stream of tokens after any number of questions. -/
theorem positions_accurate (automaton : Automaton K) (input : List Char) :
    (∀ tokens, automaton.lexer.tokenize input = .ok tokens →
      ∀ token ∈ tokens, automaton.Emits input token) ∧
    (∀ error, automaton.lexer.tokenize input = .error error → automaton.Reports input error) ∧
    ∀ count,
      let stream := (TokenStream.ofInput automaton.lexer input).drop count
      (∃ front behind, input = front ++ behind ∧
        stream.position.Counts automaton.lineBreak front) ∧
      (∀ token, stream.next.1 = some (.ok token) → automaton.Emits input token) ∧
      ∀ error, stream.next.1 = some (.error error) → automaton.Reports input error := by
  have found : automaton.Tokenizes [] input (automaton.lexer.tokenize input) :=
    automaton.tokensFrom_tokenizes [] input (Text.length_le_byteLength input)
  refine ⟨fun tokens succeeded token member => ?_, fun error failed => ?_, fun count => ?_⟩
  · rw [succeeded] at found
    obtain ⟨tiles, tiling, rfl⟩ := found
    exact tiling.emits_of_mem_tokensOf member
  · rw [failed] at found
    exact Breaks.reports found
  · have follows := automaton.follows_drop input count
    have accounts := follows.next.1
    obtain ⟨front, behind, split, position⟩ := follows.place
    refine ⟨⟨front, behind, split, ?_⟩, fun token given => ?_, fun error given => ?_⟩
    · rw [position]
      exact automaton.counts_place front
    · rwa [given] at accounts
    · rwa [given] at accounts

end Automaton

/-- The second word is on the second line, and so is the mark behind it that no state accepts. -/
theorem Automaton.positions_accurate_shouting :
    ∃ automaton,
      (AutomatonBuilder.ofSteps (.ignoreLineEnds :: Sample.shoutingSteps)).build.value =
        some automaton ∧
      let first : Token Sample.Mark := ⟨.word, "AB".toList, ⟨1, 1, 2⟩⟩
      let second : Token Sample.Mark := ⟨.word, "CD".toList, ⟨4, 2, 1⟩⟩
      let error : LexError := ⟨some '?', ⟨6, 2, 3⟩, "cd?".toList⟩
      let stream := TokenStream.ofInput automaton.lexer ",ab\ncd?".toList
      automaton.lexer.tokenize ",ab\ncd".toList = .ok [first, second] ∧
      automaton.Emits ",ab\ncd".toList second ∧
      automaton.lexer.tokenize ",ab\ncd?".toList = .error error ∧
      automaton.Reports ",ab\ncd?".toList error ∧
      (stream.drop 1).next.1 = some (.ok second) ∧ automaton.Emits ",ab\ncd?".toList second ∧
      (stream.drop 2).next.1 = some (.error error) := by
  have computed :
      (AutomatonBuilder.ofSteps (.ignoreLineEnds :: Sample.shoutingSteps)).build.value.map
        (fun automaton =>
          let stream := TokenStream.ofInput automaton.lexer ",ab\ncd?".toList
          (automaton.lexer.tokenize ",ab\ncd".toList, automaton.lexer.tokenize ",ab\ncd?".toList,
            (stream.drop 1).next.1, (stream.drop 2).next.1)) =
      some (.ok [⟨.word, "AB".toList, ⟨1, 1, 2⟩⟩, ⟨.word, "CD".toList, ⟨4, 2, 1⟩⟩],
        .error ⟨some '?', ⟨6, 2, 3⟩, "cd?".toList⟩,
        some (.ok ⟨.word, "CD".toList, ⟨4, 2, 1⟩⟩),
        some (.error ⟨some '?', ⟨6, 2, 3⟩, "cd?".toList⟩)) := rfl
  obtain ⟨automaton, built, found⟩ := Option.map_eq_some_iff.mp computed
  simp only [Prod.mk.injEq] at found
  obtain ⟨read, failed, given, broken⟩ := found
  obtain ⟨emits, -, -⟩ := automaton.positions_accurate ",ab\ncd".toList
  obtain ⟨-, reports, streams⟩ := automaton.positions_accurate ",ab\ncd?".toList
  obtain ⟨-, gives, -⟩ := streams 1
  exact ⟨automaton, built, read, emits _ read _ (by simp), failed, reports _ failed, given,
    gives _ given, broken⟩

end Lookahead
