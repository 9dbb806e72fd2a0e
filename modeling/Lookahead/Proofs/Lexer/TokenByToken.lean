import Lookahead.Proofs.Lexer.Accuracy
import Lookahead.Proofs.Lexer.Progress

/-!
# Tokens one by one and all at once

A stream asks the lexer again and again, and so does the loop that reads all tokens. The loop stops
with its answer, while the stream has to remember that it is finished. Until then the stream stands
where the loop makes its next run, so they see the same answers of the lexer one after the other.

Main statement: `Lexer.Built.stream_agrees`.
-/

namespace Lookahead

variable {K : Type}

/-- The rounds of a loop lead from one state to another one. -/
abbrev Round.Leads {S A : Type} (round? : S → Option (Round S A)) : S → S → Prop :=
  Relation.ReflTransGen fun before after => round? before = some (.again after)

namespace TokenStream

/-- Asked again and again, the stream answers with the items one after the other, and with nothing
whenever it is asked after that. -/
def Yields (stream : TokenStream K) (items : List (Except LexError (Token K))) : Prop :=
  ∀ count, (stream.drop count).next.1 = items[count]?

/-- The tokens among the first `count` answers of the stream. -/
def given (stream : TokenStream K) : Nat → List (Token K)
  | 0 => []
  | count + 1 =>
    match (stream.drop count).next.1 with
    | some (.ok token) => stream.given count ++ [token]
    | _ => stream.given count

variable {stream onward : TokenStream K} {item : Except LexError (Token K)}
  {items others : List (Except LexError (Token K))}

theorem drop_add (stream : TokenStream K) (count more : Nat) :
    stream.drop (count + more) = (stream.drop count).drop more := by
  induction more with
  | zero => rfl
  | succ more ih => exact congrArg (fun behind => behind.next.2) ih

theorem drop_succ (stream : TokenStream K) (count : Nat) :
    stream.drop (count + 1) = stream.next.2.drop count := by
  rw [Nat.add_comm, drop_add]
  rfl

/-! ### Answers of a stream -/

theorem next_of_finished (finished : stream.finished = true) : stream.next = (none, stream) := by
  rw [next, if_pos finished]

theorem drop_of_finished (finished : stream.finished = true) (count : Nat) :
    stream.drop count = stream := by
  induction count with
  | zero => rfl
  | succ count ih => rw [drop, ih, next_of_finished finished]

theorem Yields.unique (yields : stream.Yields items) (yields' : stream.Yields others) :
    items = others :=
  List.ext_getElem? fun count => (yields count).symm.trans (yields' count)

theorem yields_of_finished (finished : stream.finished = true) : stream.Yields [] := by
  intro count
  rw [drop_of_finished finished, next_of_finished finished]
  rfl

theorem Yields.cons (answered : stream.next = (some item, onward)) (yields : onward.Yields items) :
    stream.Yields (item :: items) := by
  intro count
  cases count with
  | zero => exact congrArg Prod.fst answered
  | succ count => rw [drop_succ, answered, yields count, List.getElem?_cons_succ]

theorem yields_nil (answered : stream.next = (none, onward)) (yields : onward.Yields []) :
    stream.Yields [] := by
  intro count
  cases count with
  | zero => exact congrArg Prod.fst answered
  | succ count => rw [drop_succ, answered, yields count, List.getElem?_nil, List.getElem?_nil]

end TokenStream

namespace Lexer

variable {lexer : Lexer K} {input : List Char} {tokens : List (Token K)} {position : Position}

/-! ### One round and one question -/

/-- What a round of the loop comes to after `tokens`, and what a stream at the same place answers
when it is asked once. -/
inductive Pace (lexer : Lexer K) (input : List Char) (tokens : List (Token K))
    (position : Position) :
    Option (Round (List (Token K) × Position) (Except LexError (List (Token K)))) →
      Option (Except LexError (Token K)) × TokenStream K → Prop
  | token {token : Token K} {next : Position} :
      Pace lexer input tokens position (some (.again (tokens ++ [token], next)))
        (some (.ok token), ⟨lexer, input, next, false⟩)
  | last : Pace lexer input tokens position (some (.done (.ok tokens)))
      (none, ⟨lexer, input, position, true⟩)
  | failure {error : LexError} : lexer.run input position = .error error →
      Pace lexer input tokens position (some (.done (.error error)))
        (some (.error error), ⟨lexer, input, position, true⟩)

theorem pace (lexer : Lexer K) (input : List Char) (tokens : List (Token K))
    (position : Position) :
    Pace lexer input tokens position (lexer.tokenRound? input (tokens, position))
      (TokenStream.next ⟨lexer, input, position, false⟩) := by
  rw [tokenRound?, TokenStream.next, if_neg Bool.false_ne_true]
  cases answer : lexer.run input position with
  | error error => exact .failure answer
  | ok found =>
    cases found with
    | none => exact .last
    | some pair => exact .token

/-! ### The same answers -/

/-- The stream goes on as the loop does that has read `tokens` and ends with the answer. -/
def Continues (tokens : List (Token K)) (stream : TokenStream K) :
    Except LexError (List (Token K)) → Prop
  | .ok all => ∃ rest : List (Token K), all = tokens ++ rest ∧ stream.Yields (rest.map .ok)
  | .error error => ∃ rest : List (Token K), stream.Yields (rest.map .ok ++ [.error error])

theorem Continues.cons {token : Token K} {stream onward : TokenStream K}
    {answer : Except LexError (List (Token K))}
    (continues : Continues (tokens ++ [token]) onward answer)
    (answered : stream.next = (some (.ok token), onward)) : Continues tokens stream answer := by
  match answer with
  | .ok all =>
    obtain ⟨rest, rfl, yields⟩ := continues
    exact ⟨token :: rest, List.append_assoc _ _ _, yields.cons answered⟩
  | .error error =>
    obtain ⟨rest, yields⟩ := continues
    exact ⟨token :: rest, yields.cons answered⟩

/-- Behind a token there can be an error only. -/
theorem map_ok_ne_append_error (all rest : List (Token K)) (error : LexError) :
    (all.map .ok : List (Except LexError (Token K))) ≠ rest.map .ok ++ [.error error] := by
  intro same
  have member : Except.error error ∈ (all.map .ok : List (Except LexError (Token K))) := by
    simp [same]
  simp at member

/-- A stream goes on in one way only. -/
theorem Continues.unique {stream : TokenStream K} {answer other : Except LexError (List (Token K))}
    (continues : Continues [] stream answer) (continues' : Continues [] stream other) :
    answer = other := by
  have injective : Function.Injective (Except.ok (ε := LexError) (α := Token K)) :=
    fun _ _ => Except.ok.inj
  match answer, other with
  | .ok all, .ok all' =>
    obtain ⟨_, rfl, yields⟩ := continues
    obtain ⟨_, rfl, yields'⟩ := continues'
    rw [List.map_injective_iff.mpr injective (yields.unique yields')]
  | .ok all, .error error =>
    obtain ⟨_, -, yields⟩ := continues
    obtain ⟨_, yields'⟩ := continues'
    exact absurd (yields.unique yields') (map_ok_ne_append_error _ _ _)
  | .error error, .ok all =>
    obtain ⟨_, yields⟩ := continues
    obtain ⟨_, -, yields'⟩ := continues'
    exact absurd (yields'.unique yields) (map_ok_ne_append_error _ _ _)
  | .error error, .error error' =>
    obtain ⟨_, yields⟩ := continues
    obtain ⟨_, yields'⟩ := continues'
    have last := (List.append_inj' (yields.unique yields') rfl).2
    cases last
    rfl

/-- From a state of the loop to its end a stream at the same place gives the tokens that the loop
reads, and an error behind them if the loop ends with it. -/
theorem continues_of_ends {outcome : Option (Round (List (Token K) × Position) _)}
    {answer : Except LexError (List (Token K))}
    (ends : Round.Ends (lexer.tokenRound? input) outcome answer)
    (here : lexer.tokenRound? input (tokens, position) = outcome) :
    Continues tokens ⟨lexer, input, position, false⟩ answer := by
  have finished : TokenStream.Yields ⟨lexer, input, position, true⟩ [] :=
    TokenStream.yields_of_finished rfl
  induction ends generalizing tokens position with
  | done =>
    have both := lexer.pace input tokens position
    rw [here] at both
    generalize answered : TokenStream.next _ = reply at both
    cases both with
    | last => exact ⟨[], (List.append_nil tokens).symm, TokenStream.yields_nil answered finished⟩
    | failure _ => exact ⟨[], finished.cons answered⟩
  | again _ ih =>
    have both := lexer.pace input tokens position
    rw [here] at both
    generalize answered : TokenStream.next _ = reply at both
    cases both with
    | token => exact (ih rfl (TokenStream.yields_of_finished rfl)).cons answered

/-! ### The same places -/

/-- The stream stands where the loop makes its next run after these tokens. -/
structure Tracks (lexer : Lexer K) (input : List Char) (tokens : List (Token K))
    (stream : TokenStream K) : Prop where
  same_lexer : stream.lexer = lexer
  same_input : stream.input = input
  reached : Round.Leads (lexer.tokenRound? input) ([], .start) (tokens, stream.position)

/-- A question leads from where the loop makes a run to where it makes the next one. If there is no
token, the stream stays where this run was made. -/
theorem Tracks.next {stream : TokenStream K} (tracks : Tracks lexer input tokens stream) :
    match stream.next with
    | (some (.ok token), onward) => Tracks lexer input (tokens ++ [token]) onward
    | (some (.error error), onward) => lexer.run input stream.position = .error error ∧
        onward = { stream with finished := true }
    | (none, onward) => onward = { stream with finished := true } := by
  obtain ⟨lexer', input', position, finished⟩ := stream
  obtain ⟨rfl, rfl, reached⟩ := tracks
  cases finished with
  | true => rw [TokenStream.next_of_finished rfl]
  | false =>
    have both := lexer'.pace input' tokens position
    generalize met : tokenRound? _ _ _ = outcome at both
    generalize TokenStream.next _ = reply at both ⊢
    cases both with
    | token => exact ⟨rfl, rfl, reached.tail met⟩
    | last => rfl
    | failure failed => exact ⟨failed, rfl⟩

theorem tracks_drop (lexer : Lexer K) (input : List Char) (count : Nat) :
    Tracks lexer input ((TokenStream.ofInput lexer input).given count)
      ((TokenStream.ofInput lexer input).drop count) := by
  induction count with
  | zero => exact ⟨rfl, rfl, .refl⟩
  | succ count ih =>
    have onward := ih.next
    rw [TokenStream.given, TokenStream.drop]
    generalize TokenStream.next _ = reply at onward ⊢
    match reply, onward with
    | (some (.ok token), _), onward => exact onward
    | (some (.error error), _), ⟨_, same⟩ => exact same ▸ ⟨ih.same_lexer, ih.same_input, ih.reached⟩
    | (none, _), same => exact same ▸ ⟨ih.same_lexer, ih.same_input, ih.reached⟩

/-! ### Lexers that were built -/

/-- The lexer was built from steps, or of lexemes that match no more than the text that is left. -/
inductive Built [DecidableEq K] [TokenKind K] : Lexer K → Prop
  | automaton {steps : List (AutomatonStep K)} {automaton : Automaton K} :
      (AutomatonBuilder.ofSteps steps).build.value = some automaton → Built automaton.lexer
  | table {table : LexemeTable K} :
      (∀ lexeme ∈ table.lexemes, lexeme.Within) → Built table.lexer

/-- Regular expressions are such lexemes. -/
theorem Built.of_declarations [DecidableEq K] [TokenKind K]
    {declarations : List (LexemeDeclaration K)} {table : LexemeTable K}
    (built : (LexemeTable.build declarations).value = some table) : table.lexer.Built :=
  .table (LexemeTable.within_of_build built)

/-- The loop that reads all tokens with a built lexer comes to an end. -/
theorem Built.ends [DecidableEq K] [TokenKind K] (built : lexer.Built) (input : List Char) :
    Round.Ends (lexer.tokenRound? input) (some (.again ([], .start))) (lexer.tokenize input) := by
  cases built with
  | @automaton steps automaton built =>
    have starts : automaton.lexer.Starts automaton.read := fun _ _ => rfl
    exact starts.tokenize_ends (AutomatonBuilder.closed_of_build built).unrolls input
  | @table table within =>
    have starts : table.lexer.Starts table.read := fun _ _ => rfl
    exact starts.tokenize_ends (LexemeTable.unrolls within) input

theorem Built.continues [DecidableEq K] [TokenKind K] (built : lexer.Built) (input : List Char) :
    Continues [] (TokenStream.ofInput lexer input) (lexer.tokenize input) := by
  obtain _ | ⟨ends⟩ := built.ends input
  exact continues_of_ends ends rfl

/-- Tokens are the same one by one and all at once. There are all tokens of the input just if the
stream answers with each of them and then with nothing for ever, and there is an error just if the
stream answers with some tokens, then once with the error and then with nothing for ever. The loop
that reads all tokens comes to an end, and after the tokens that the stream has given so far it
makes its next run where the stream stands. Behind an error this is where the run failed. -/
theorem Built.stream_agrees [DecidableEq K] [TokenKind K] (built : lexer.Built)
    (input : List Char) :
    let stream := TokenStream.ofInput lexer input
    (∀ tokens : List (Token K),
      lexer.tokenize input = .ok tokens ↔ stream.Yields (tokens.map .ok)) ∧
    (∀ error, lexer.tokenize input = .error error ↔
      ∃ tokens : List (Token K), stream.Yields (tokens.map .ok ++ [.error error])) ∧
    Round.Ends (lexer.tokenRound? input) (some (.again ([], .start))) (lexer.tokenize input) ∧
    ∀ count,
      Round.Leads (lexer.tokenRound? input) ([], .start)
        (stream.given count, (stream.drop count).position) ∧
      ∀ error, (stream.drop count).next.1 = some (.error error) →
        lexer.run input (stream.drop count).position = .error error ∧
          ∀ more, (stream.drop (count + more)).position = (stream.drop count).position := by
  intro stream
  have continues : Continues [] stream (lexer.tokenize input) := built.continues input
  refine ⟨fun tokens => ⟨fun answered => ?_, fun yields => ?_⟩,
    fun error => ⟨fun answered => ?_, fun ⟨tokens, yields⟩ => ?_⟩, built.ends input,
    fun count => ?_⟩
  · rw [answered] at continues
    obtain ⟨_, rfl, yields⟩ := continues
    exact yields
  · have given : Continues [] stream (.ok tokens) := ⟨tokens, rfl, yields⟩
    exact continues.unique given
  · rw [answered] at continues
    exact continues
  · have given : Continues [] stream (.error error) := ⟨tokens, yields⟩
    exact continues.unique given
  · have tracks := lexer.tracks_drop input count
    refine ⟨tracks.reached, fun error failed => ?_⟩
    have onward := tracks.next
    generalize answered : TokenStream.next _ = reply at onward
    rw [answered] at failed
    obtain ⟨answer, behind⟩ := reply
    cases failed
    obtain ⟨found, same⟩ := onward
    refine ⟨found, fun more => ?_⟩
    cases more with
    | zero => rfl
    | succ more =>
      -- Behind the error the stream is finished, so questions do not change it any more.
      rw [TokenStream.drop_add, TokenStream.drop_succ, answered, same,
        TokenStream.drop_of_finished rfl]

end Lexer

/-- A stream gives the two words in front of a mark that no state accepts, and then the error that
reading all tokens ends with. Words by patterns are read as well. -/
theorem Lexer.Built.stream_agrees_words :
    (∃ lexer : Lexer Sample.Mark, lexer.Built ∧
      let stream := TokenStream.ofInput lexer "ab,c?".toList
      let error : LexError := ⟨some '?', ⟨4, 1, 5⟩, "ab,c?".toList⟩
      stream.given 2 = [⟨.word, "ab".toList, .start⟩, ⟨.word, "c".toList, .start⟩] ∧
      lexer.tokenize "ab,c?".toList = .error error ∧
      (∃ tokens : List (Token Sample.Mark), stream.Yields (tokens.map .ok ++ [.error error])) ∧
      Round.Leads (lexer.tokenRound? "ab,c?".toList) ([], .start)
        (stream.given 2, (stream.drop 2).position)) ∧
    ∃ table, (LexemeTable.build Sample.wordLexemes).value = some table ∧
      Round.Ends (table.lexer.tokenRound? "ab,c?".toList) (some (.again ([], .start)))
        (table.lexer.tokenize "ab,c?".toList) := by
  have computed : (AutomatonBuilder.ofSteps Sample.wordSteps).build.value.map (fun automaton =>
      ((TokenStream.ofInput automaton.lexer "ab,c?".toList).given 2,
        automaton.lexer.tokenize "ab,c?".toList)) =
      some ([⟨.word, "ab".toList, .start⟩, ⟨.word, "c".toList, .start⟩],
        .error ⟨some '?', ⟨4, 1, 5⟩, "ab,c?".toList⟩) := rfl
  obtain ⟨automaton, built, found⟩ := Option.map_eq_some_iff.mp computed
  obtain ⟨given, failed⟩ := Prod.mk.inj found
  obtain ⟨-, failures, -, places⟩ :=
    Lexer.Built.stream_agrees (.automaton built) "ab,c?".toList
  have tabular : (LexemeTable.build Sample.wordLexemes).value.isSome := by decide
  obtain ⟨table, built'⟩ := Option.isSome_iff_exists.mp tabular
  obtain ⟨-, -, ends, -⟩ :=
    Lexer.Built.stream_agrees (.of_declarations built') "ab,c?".toList
  exact ⟨⟨automaton.lexer, .automaton built, given, failed, (failures _).mp failed, (places 2).1⟩,
    table, built', ends⟩

end Lookahead
