import Lookahead.Proofs.Grammar.Coherence
import Lookahead.Proofs.Lexer.Accuracy
import Lookahead.Proofs.Parser.ErrorPlaces

/-!
# Line breaks of automata in syntax errors

An automaton may end lines at any character. The positions of its tokens follow it, so an error
about a token points to the place of the token. The place behind the last token is found again from
its text, and there lines end at line feeds. So an error at the end of the tokens points to where
the automaton stopped just if the last token has neither a line feed nor a line break in it, or
lines do end at line feeds.

Main statement: `Parser.syntaxErrors_placed`.
-/

namespace Lookahead

namespace Automaton

variable {K : Type} {automaton : Automaton K}

/-- Tokens are returned as they are read. -/
def Plain (automaton : Automaton K) : Prop :=
  ∀ state ending, automaton.ending? state = some ending → ending.callback = none

/-- The token stands between `front` and `behind`. It has the position of this place, and reading
from there gives the token and the place behind its text. -/
structure Stands (automaton : Automaton K) (token : Token K) (front behind : List Char) : Prop where
  placed : token.position = automaton.place front
  found : automaton.lexer.run (front ++ (token.text ++ behind)) token.position =
    .ok (some (token, automaton.place (front ++ token.text)))

/-- All tokens of a plain automaton stand in the input. -/
theorem Plain.stands (plain : automaton.Plain) {input : List Char} {tokens : List (Token K)}
    (tokenized : automaton.lexer.tokenize input = .ok tokens) {token : Token K}
    (member : token ∈ tokens) :
    ∃ front behind, input = front ++ (token.text ++ behind) ∧
      automaton.Stands token front behind := by
  have found : automaton.Tokenizes [] input (automaton.lexer.tokenize input) :=
    automaton.tokensFrom_tokenizes [] input (Text.length_le_byteLength input)
  rw [tokenized] at found
  obtain ⟨tiles, tiling, rfl⟩ := found
  obtain ⟨front, lexeme, behind, ending, split, fits, kept, rfl⟩ :=
    tiling.exists_fits_of_mem_tokensOf member
  -- What fits in between the other tiles is also what a reading from its place finds.
  have read := fits.run_eq kept front
  obtain ⟨-, final, -, ended⟩ := fits
  rw [Ending.emit_eq, plain final ending ended] at read
  rw [plain final ending ended]
  exact ⟨front, behind, split, rfl, read⟩

/-- The place behind a token is found from its text just if it does not matter where lines end. -/
theorem Stands.ending_eq_iff {token : Token K} {front behind : List Char}
    (stands : automaton.Stands token front behind) :
    token.ending = automaton.place (front ++ token.text) ↔
      automaton.lineBreak = '\n' ∨ '\n' ∉ token.text ∧ automaton.lineBreak ∉ token.text := by
  rw [Token.ending, place_append, stands.placed]
  by_cases usual : automaton.lineBreak = '\n'
  · simp [usual]
  · rw [Position.advanceOver_eq_iff (Ne.symm usual)]
    simp [usual]

end Automaton

variable {K V C : Type} [TokenKind K]

/-- With a lexer that is a plain automaton, an error about a token points to the place of the
token. An error at the end of the tokens points to the start if there is none. If there is a last
token, it points to the place that the automaton reached behind this token just if lines end at line
feeds or neither a line feed nor a line break stands in the token. -/
theorem Parser.syntaxErrors_placed (parser : Parser K V C) (automaton : Automaton K)
    (reads : parser.lexer = automaton.lexer) (plain : automaton.Plain) (input : List Char)
    (rule : String) (context : C) :
    let lineBreak := automaton.lineBreak
    let errors := (parser.parseRule input rule context).1.errors
    (∀ expected found name, .unexpectedToken expected found name ∈ errors →
      ∃ front behind, input = front ++ behind ∧
        (SyntaxError.unexpectedToken expected found name).PointsTo lineBreak front behind) ∧
    ∀ expected position name, .unexpectedEnd expected position name ∈ errors →
      let error := SyntaxError.unexpectedEnd expected position name
      ∃ tokens, automaton.lexer.tokenize input = .ok tokens ∧
        (tokens = [] → error.PointsTo lineBreak [] input) ∧
        ∀ token ∈ tokens.getLast?, ∃ front behind, input = front ++ (token.text ++ behind) ∧
          automaton.Stands token front behind ∧
          (error.PointsTo lineBreak (front ++ token.text) behind ↔
            lineBreak = '\n' ∨ '\n' ∉ token.text ∧ lineBreak ∉ token.text) := by
  intro lineBreak errors
  constructor
  · intro expected found name member
    rcases Parser.concerns_of_mem_errors member with ⟨_, _, lexical⟩ | ⟨tokens, tokenized, concerns⟩
    · cases lexical
    · cases concerns with
      | token among =>
        rw [reads] at tokenized
        obtain ⟨front, behind, split, stands⟩ := plain.stands tokenized among
        have placed : (SyntaxError.unexpectedToken expected found name).position? =
            some (automaton.place front) := congrArg some stands.placed
        exact ⟨front, found.text ++ behind, split,
          SyntaxError.pointsTo_of_position? rfl placed (found.text ++ behind)⟩
  · intro expected position name member error
    rcases Parser.concerns_of_mem_errors member with ⟨_, _, lexical⟩ | ⟨tokens, tokenized, concerns⟩
    · cases lexical
    · cases concerns with
      | ending =>
        rw [reads] at tokenized
        refine ⟨tokens, tokenized, ?_, ?_⟩
        · rintro rfl
          exact SyntaxError.pointsTo_of_position? rfl rfl input
        · intro token last
          obtain ⟨front, behind, split, stands⟩ :=
            plain.stands tokenized (List.mem_of_getLast? last)
          have ends : error.position? = some token.ending := by
            rw [SyntaxError.position?, endOfTokens, Option.mem_def.mp last]
          refine ⟨front, behind, split, stands, ?_⟩
          rw [← stands.ending_eq_iff]
          constructor
          · intro points
            exact Option.some.inj (ends.symm.trans points.placed)
          · intro same
            exact SyntaxError.pointsTo_of_position? rfl (ends.trans (congrArg some same)) behind

namespace Sample

/-- An automaton that reads opening brackets, each with the semicolon behind it if there is one.
Lines end at semicolons. -/
def openings : Automaton Mark where
  states := [⟨none, [⟨.char '[', 1⟩], none⟩,
    ⟨none, [⟨.char ';', 2⟩], some ⟨.opening, false, none⟩⟩,
    ⟨none, [], some ⟨.opening, false, none⟩⟩]
  ignored := []
  ignoresLineEnds := false
  lineBreak := ';'

theorem openings_plain : openings.Plain := by
  intro state ending found
  match state with
  | 0 => cases found
  | 1 => cases found; rfl
  | 2 => cases found; rfl
  | _ + 3 => cases found

/-- A parser for lists that never end. -/
def openingsParser : Parser Mark Nat Unit := ⟨grammar, openings.lexer, "list"⟩

end Sample

/-- Behind a bracket without a semicolon the end is found where the automaton stops. -/
theorem Parser.syntaxErrors_placed_bracket :
    Sample.openingsParser.lexer = Sample.openings.lexer ∧ Sample.openings.Plain ∧
      ∃ error ∈ (Sample.openingsParser.parseRule "[".toList "list" ()).1.errors,
        error.PointsTo ';' "[".toList [] := by
  refine ⟨rfl, Sample.openings_plain, ?_⟩
  have stopped : (Sample.openingsParser.parseRule "[".toList "list" ()).1.errors =
      [.unexpectedEnd [.closing] ⟨1, 1, 2⟩ "item"] := by decide
  have member : .unexpectedEnd [.closing] ⟨1, 1, 2⟩ "item" ∈
      (Sample.openingsParser.parseRule "[".toList "list" ()).1.errors := by
    rw [stopped]
    exact List.mem_singleton_self _
  have read : Sample.openings.lexer.tokenize "[".toList =
      .ok [⟨.opening, "[".toList, .start⟩] := by decide
  obtain ⟨tokens, tokenized, -, last⟩ := (Sample.openingsParser.syntaxErrors_placed Sample.openings
    rfl Sample.openings_plain "[".toList "list" ()).2 _ _ _ member
  obtain rfl : [⟨.opening, "[".toList, .start⟩] = tokens :=
    Except.ok.inj (read.symm.trans tokenized)
  obtain ⟨front, behind, split, -, points⟩ := last _ rfl
  -- The token is the whole input.
  have short : 1 = front.length + (behind.length + 1) := by simpa using congrArg List.length split
  obtain rfl : front = [] := List.eq_nil_of_length_eq_zero (by omega)
  obtain rfl : behind = [] := List.eq_nil_of_length_eq_zero (by omega)
  exact ⟨_, member, points.mpr (Or.inr (by decide))⟩

/-- Behind a bracket with a semicolon the automaton is in the second line, and the error is in the
first one. -/
theorem Parser.syntaxErrors_misplaced_semicolon :
    (Sample.openingsParser.parseRule "[;".toList "list" ()).1.errors =
        [.unexpectedEnd [.closing] ⟨2, 1, 3⟩ "item"] ∧
      Sample.openings.lexer.run "[;".toList .start =
        .ok (some (⟨.opening, "[;".toList, .start⟩, ⟨2, 2, 1⟩)) := by
  decide

end Lookahead
