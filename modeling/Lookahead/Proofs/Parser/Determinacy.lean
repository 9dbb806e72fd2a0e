import Lookahead.Proofs.Parser.Adequacy

/-!
# The matcher gives every answer

Where its bound is not reached, the matcher gives the answers of the relation between calls and
answers: the tree of every match, and the stop of every call that stops. So there is never more
than one answer, and every bound that is not reached gives the same.

Main statements: `Grammar.Matches.matchClause_eq`, `Grammar.Stops.run_eq` and
`Grammar.run_congr`.
-/

namespace Lookahead

namespace Outcome

variable {K C α β : Type} [TokenKind K]

theorem Finished.of_andThen {outcome : Outcome K C α} {next : α → Matcher K C β}
    (finished : (outcome.andThen next).Finished) : outcome.Finished := by
  rintro rule rest context rfl
  exact finished rule rest context rfl

theorem finished_map {outcome : Outcome K C α} {change : α → β} :
    (outcome.map change).Finished ↔ outcome.Finished := by
  cases outcome <;> simp [Finished, map]

theorem eq_matched_of_map {outcome : Outcome K C α} {change : α → β}
    (injective : Function.Injective change) {result : α} {rest : List (Token K)} {after : C}
    (matched : outcome.map change = .matched (change result) rest after) :
    outcome = .matched result rest after := by
  cases outcome with
  | stopped => cases matched
  | matched before left context =>
    obtain ⟨same, rfl, rfl⟩ := Outcome.matched.inj matched
    rw [injective same]

theorem eq_stopped_of_map {outcome : Outcome K C α} {change : α → β} {cause : Stop K}
    {rest : List (Token K)} {after : C} (stopped : outcome.map change = .stopped cause rest after) :
    outcome = .stopped cause rest after := by
  cases outcome with
  | stopped =>
    cases stopped
    rfl
  | matched => cases stopped

end Outcome

namespace Grammar

variable {K V C : Type} [TokenKind K] {grammar : Grammar K V C}

/-! ### Sequences and loops

What is known of the match of a sequence or of a loop holds of the list of trees that it is made
from. -/

section Lists

variable {visit : String → Matcher K C (Tree K V)} {caller : String}
  {tokens rest : List (Token K)} {context after : C}

theorem matchSequence_eq_matched {items : List (Clause K)} {trees : List (Tree K V)}
    (answered : (grammar.matchClause visit caller (.sequence items) tokens context).Finished →
      grammar.matchClause visit caller (.sequence items) tokens context =
        .matched (.group none trees) rest after)
    (finished : (grammar.matchSequence visit caller items tokens context).Finished) :
    grammar.matchSequence visit caller items tokens context = .matched trees rest after := by
  rw [matchClause] at answered
  have injective : Function.Injective (Tree.group none : List (Tree K V) → Tree K V) := by
    rintro first second ⟨⟩
    rfl
  exact Outcome.eq_matched_of_map injective (answered (Outcome.finished_map.mpr finished))

theorem matchSequence_eq_stopped {items : List (Clause K)} {cause : Stop K}
    (answered : (grammar.matchClause visit caller (.sequence items) tokens context).Finished →
      grammar.matchClause visit caller (.sequence items) tokens context =
        .stopped cause rest after)
    (finished : (grammar.matchSequence visit caller items tokens context).Finished) :
    grammar.matchSequence visit caller items tokens context = .stopped cause rest after := by
  rw [matchClause] at answered
  exact Outcome.eq_stopped_of_map (answered (Outcome.finished_map.mpr finished))

theorem repeated_eq_matched {body : Clause K} {items : List (Tree K V)}
    (answered : (grammar.matchClause visit caller (.zeroOrMore body) tokens context).Finished →
      grammar.matchClause visit caller (.zeroOrMore body) tokens context =
        .matched (.many items) rest after)
    (finished : (Matcher.repeated (grammar.starts body) (grammar.matchClause visit caller body)
      tokens context).Finished) :
    Matcher.repeated (grammar.starts body) (grammar.matchClause visit caller body) tokens context =
      .matched items rest after := by
  rw [matchClause] at answered
  have injective : Function.Injective (Tree.many : List (Tree K V) → Tree K V) := by
    rintro first second ⟨⟩
    rfl
  exact Outcome.eq_matched_of_map injective (answered (Outcome.finished_map.mpr finished))

theorem repeated_eq_stopped {body : Clause K} {cause : Stop K}
    (answered : (grammar.matchClause visit caller (.zeroOrMore body) tokens context).Finished →
      grammar.matchClause visit caller (.zeroOrMore body) tokens context =
        .stopped cause rest after)
    (finished : (Matcher.repeated (grammar.starts body) (grammar.matchClause visit caller body)
      tokens context).Finished) :
    Matcher.repeated (grammar.starts body) (grammar.matchClause visit caller body) tokens context =
      .stopped cause rest after := by
  rw [matchClause] at answered
  exact Outcome.eq_stopped_of_map (answered (Outcome.finished_map.mpr finished))

end Lists

/-! ### Matches -/

/-- A match of the relation is what the matcher answers, unless the bound is reached. -/
theorem Matches.matchClause_eq {caller : String} {clause : Clause K} {tokens rest : List (Token K)}
    {context after : C} {tree : Tree K V}
    (matched : Matches grammar caller clause tokens context tree rest after) {bound : Nat}
    (finished :
      (grammar.matchClause (grammar.visitor bound) caller clause tokens context).Finished) :
    grammar.matchClause (grammar.visitor bound) caller clause tokens context =
      .matched tree rest after := by
  induction matched generalizing bound with
  | terminal => simp [matchClause]
  | rule found chosen _ ih =>
    rw [matchClause, visitor_of_some found] at finished ⊢
    cases bound with
    | zero => exact absurd rfl (finished _ _ _)
    | succ bound =>
      -- One rule was entered, so the alternative has a bound that is smaller by one.
      rw [matchRule_succ, chosen] at finished ⊢
      simp only at finished ⊢
      rw [matchSequence_eq_matched ih finished.of_andThen]
      rfl
  | nil => rfl
  | cons _ _ ih ih' =>
    rw [matchClause, matchSequence] at finished ⊢
    have sequel := Outcome.finished_map.mp finished
    have first := ih sequel.of_andThen
    rw [first] at sequel ⊢
    simp only [Outcome.andThen] at sequel ⊢
    rw [matchSequence_eq_matched ih' (Outcome.finished_map.mp sequel)]
    rfl
  | choice picked _ ih =>
    rw [matchClause_choice, picked] at finished ⊢
    exact ih finished
  | stop ended =>
    rw [matchClause, repeated_visitor_eq, ended]
    rfl
  | more starts _ progress _ ih ih' =>
    rw [matchClause, repeated_visitor_eq, starts, if_pos rfl] at finished ⊢
    have sequel := Outcome.finished_map.mp finished
    have round := ih sequel.of_andThen
    rw [round] at sequel ⊢
    simp only [Outcome.andThen, if_neg progress] at sequel ⊢
    rw [repeated_eq_matched ih' (Outcome.finished_map.mp sequel)]
    rfl
  | idle starts _ same ih =>
    rw [matchClause, repeated_visitor_eq, starts, if_pos rfl] at finished ⊢
    have round := ih (Outcome.finished_map.mp finished).of_andThen
    rw [round]
    simp only [Outcome.andThen, if_pos same]
    rfl
  | oneOrMore _ ih =>
    rw [matchClause] at finished ⊢
    rw [repeated_eq_matched ih finished.of_andThen]
    rfl
  | once ended nothing _ ih =>
    rw [matchClause, repeated_visitor_eq, ended] at finished ⊢
    simp only [Bool.false_eq_true, if_false, Outcome.andThen, List.isEmpty_nil, Bool.not_true,
      nothing, if_true] at finished ⊢
    rw [ih (Outcome.finished_map.mp finished)]
    rfl
  | absent ended =>
    rw [matchClause, ended]
    rfl
  | present starts _ ih =>
    rw [matchClause, starts, if_pos rfl] at finished ⊢
    exact ih finished
  | group _ ih =>
    rw [matchClause] at finished ⊢
    rw [ih (Outcome.finished_map.mp finished)]
    rfl

/-! ### Stops -/

/-- If a call that is made stops, so does the matcher at the caller, unless the bound is
reached. -/
theorem Calls.run_eq {call callee : Call K C} (calls : Calls grammar call callee) {cause : Stop K}
    {rest : List (Token K)} {after : C}
    (stopped : ∀ bound, (grammar.run bound callee).Finished →
      grammar.run bound callee = .stopped cause rest after)
    {bound : Nat} (finished : (grammar.run bound call).Finished) :
    grammar.run bound call = .stopped cause rest after := by
  simp only [run] at stopped finished ⊢
  cases calls with
  | rule found chosen =>
    rw [matchClause, visitor_of_some found] at finished ⊢
    cases bound with
    | zero => exact absurd rfl (finished _ _ _)
    | succ bound =>
      rw [matchRule_succ, chosen] at finished ⊢
      simp only at finished ⊢
      rw [matchSequence_eq_stopped (stopped bound) finished.of_andThen]
      rfl
  | head =>
    rw [matchClause, matchSequence] at finished ⊢
    rw [stopped bound (Outcome.finished_map.mp finished).of_andThen]
    rfl
  | tail matched =>
    rw [matchClause, matchSequence] at finished ⊢
    have sequel := Outcome.finished_map.mp finished
    have first := matched.matchClause_eq sequel.of_andThen
    rw [first] at sequel ⊢
    simp only [Outcome.andThen] at sequel ⊢
    rw [matchSequence_eq_stopped (stopped bound) (Outcome.finished_map.mp sequel)]
    rfl
  | choice picked =>
    rw [matchClause_choice, picked] at finished ⊢
    exact stopped bound finished
  | body starts =>
    rw [matchClause, repeated_visitor_eq, starts, if_pos rfl] at finished ⊢
    rw [stopped bound (Outcome.finished_map.mp finished).of_andThen]
    rfl
  | again starts matched progress =>
    rw [matchClause, repeated_visitor_eq, starts, if_pos rfl] at finished ⊢
    have sequel := Outcome.finished_map.mp finished
    have round := matched.matchClause_eq sequel.of_andThen
    rw [round] at sequel ⊢
    simp only [Outcome.andThen, if_neg progress] at sequel ⊢
    rw [repeated_eq_stopped (stopped bound) (Outcome.finished_map.mp sequel)]
    rfl
  | loop =>
    rw [matchClause] at finished ⊢
    rw [repeated_eq_stopped (stopped bound) finished.of_andThen]
    rfl
  | once ended nothing =>
    rw [matchClause, repeated_visitor_eq, ended] at finished ⊢
    simp only [Bool.false_eq_true, if_false, Outcome.andThen, List.isEmpty_nil, Bool.not_true,
      nothing, if_true] at finished ⊢
    rw [stopped bound (Outcome.finished_map.mp finished)]
    rfl
  | optional starts =>
    rw [matchClause, starts, if_pos rfl] at finished ⊢
    exact stopped bound finished
  | group =>
    rw [matchClause] at finished ⊢
    rw [stopped bound (Outcome.finished_map.mp finished)]
    rfl

/-- Where a call is blocked the matcher stops. -/
theorem Blocked.run_eq {call : Call K C} {cause : Stop K} (blocked : Blocked grammar call cause)
    {bound : Nat} (finished : (grammar.run bound call).Finished) :
    grammar.run bound call = .stopped cause call.tokens call.context := by
  simp only [run] at finished ⊢
  cases blocked with
  | @terminal caller kind tokens context other =>
    cases tokens with
    | nil => rfl
    | cons token rest =>
      have different : token.kind ≠ kind := by simpa [nextKind] using other
      rw [matchClause, if_neg different]
  | rule found missing =>
    rw [matchClause, visitor_of_some found] at finished ⊢
    cases bound with
    | zero => exact absurd rfl (finished _ _ _)
    | succ bound => rw [matchRule_succ, missing]
  | unknown missing => rw [matchClause, visitor_of_none missing]
  | choice missing => rw [matchClause_choice, missing]
  | oneOrMore ended needed =>
    rw [matchClause, repeated_visitor_eq, ended]
    simp [Outcome.andThen, needed]

/-- A stop of the relation is what the matcher answers, unless the bound is reached. -/
theorem Stops.run_eq {call : Call K C} {cause : Stop K} {rest : List (Token K)} {after : C}
    (stops : Stops grammar call cause rest after) {bound : Nat}
    (finished : (grammar.run bound call).Finished) :
    grammar.run bound call = .stopped cause rest after := by
  obtain ⟨depth, site, reached, blocked, rfl, rfl⟩ := stops
  induction reached generalizing bound with
  | here => exact blocked.run_eq finished
  | step calls _ ih => exact calls.run_eq (fun _ inner => ih inner blocked) finished

/-- The matcher answers the same under every bound that is not reached. -/
theorem run_congr {call : Call K C} {bound larger : Nat}
    (finished : (grammar.run bound call).Finished) (other : (grammar.run larger call).Finished) :
    grammar.run bound call = grammar.run larger call := by
  have explained := run_explained grammar larger call
  cases answer : grammar.run larger call with
  | matched tree rest after =>
    rw [answer] at explained
    exact Matches.matchClause_eq explained finished
  | stopped cause rest after =>
    rw [answer] at explained
    rcases explained with stops | ⟨site, -, cut, -⟩
    · exact stops.run_eq finished
    · cases cut with
      | rule => exact absurd answer (other _ _ _)

/-! ### Parsing -/

/-- Parsing is the call of the start rule, told as a result. -/
theorem parseTokens_of_some {start : String} {rule : Rule K V C}
    (found : grammar.rule? start = some rule) (tokens : List (Token K)) (context : C) :
    grammar.parseTokens tokens start context =
      match grammar.run (grammar.nestingBound tokens) ⟨start, .rule start, tokens, context⟩ with
      | .matched root rest after =>
        (⟨some root, [], tokens.length - rest.length, rest.isEmpty⟩, after)
      | .stopped cause rest after =>
        (.failed (cause.error tokens rest) (tokens.length - rest.length), after) := by
  have answer : grammar.run (grammar.nestingBound tokens) ⟨start, .rule start, tokens, context⟩ =
      grammar.matchRule (grammar.nestingBound tokens) rule tokens context := by
    rw [run, matchClause, visitor_of_some found]
  rw [answer, parseTokens]
  cases outcome : grammar.matchRule (grammar.nestingBound tokens) rule tokens context with
  | matched root rest after => simp only [found, outcome]
  | stopped cause rest after => simp only [found, outcome]

theorem parseTokens_of_none {start : String} (missing : grammar.rule? start = none)
    (tokens : List (Token K)) (context : C) :
    grammar.parseTokens tokens start context = (.failed (.unknownRule start) 0, context) := by
  rw [parseTokens, missing]

end Grammar

end Lookahead
