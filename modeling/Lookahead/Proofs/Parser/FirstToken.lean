import Lookahead.Proofs.Parser.Soundness
import Lookahead.Proofs.Parser.Termination

/-!
# The first token decides

What is foretold of calls is told here of the outcomes of the matcher, in terms of first sets. A
kind in the first set of a clause is read. Otherwise nothing is read, and whether the clause
matches is whether it is nullable. So a round of a loop reads a token, the test that would end a
loop after an idle round is never met, and a repetition holds no empty item, except for the one
that a repetition of a nullable clause has to have.

Main statement: `Grammar.first_predicts_run`.
-/

namespace Lookahead

/-- The tokens that are left. -/
def Outcome.rest {K C α : Type} [TokenKind K] : Outcome K C α → List (Token K)
  | .matched _ rest _ => rest
  | .stopped _ rest _ => rest

namespace Grammar

variable {K V C : Type} [TokenKind K] {grammar : Grammar K V C}

/-! ### Outcomes -/

/-- What first sets and nullability predict of the outcome of matching a clause. -/
structure Predicted (grammar : Grammar K V C) (clause : Clause K) (tokens : List (Token K))
    (outcome : Outcome K C (Tree K V)) : Prop where
  reads {token : Token K} {others : List (Token K)} :
    tokens = token :: others → token.kind ∈ grammar.firstOf clause → outcome.rest <:+ others
  succeeds : (∀ kind ∈ nextKind tokens, kind ∉ grammar.firstOf clause) →
    grammar.nullable clause = true → ∃ tree after, outcome = .matched tree tokens after
  fails : (∀ kind ∈ nextKind tokens, kind ∉ grammar.firstOf clause) →
    grammar.nullable clause = false →
      ∃ kinds rule after, outcome = .stopped (.expecting kinds rule) tokens after

theorem starts_cons {clause : Clause K} {token : Token K} {others : List (Token K)} :
    grammar.starts clause (nextKind (token :: others)) = true ↔
      token.kind ∈ grammar.firstOf clause := by
  rw [starts_iff]
  simp [nextKind]

theorem starts_eq_false_iff {clause : Clause K} {next : Option K} :
    grammar.starts clause next = false ↔ ∀ kind ∈ next, kind ∉ grammar.firstOf clause := by
  rw [Bool.eq_false_iff, ne_eq, starts_iff]
  simp

/-- What is left after a token was read are the tokens behind it. -/
theorem Foretold.suffix {clause : Clause K} {token : Token K} {others rest : List (Token K)}
    {succeeded : Bool} (foretold : Foretold grammar clause (token :: others) rest succeeded)
    (suffix : rest <:+ token :: others) (member : token.kind ∈ grammar.firstOf clause) :
    rest <:+ others := by
  have shorter := foretold.read (starts_cons.mpr member)
  rcases List.suffix_cons_iff.mp suffix with rfl | behind
  · exact absurd shorter (lt_irrefl _)
  · exact behind

theorem Matches.predicted (coherent : grammar.Coherent) {caller : String} {clause : Clause K}
    {tokens rest : List (Token K)} {context after : C} {tree : Tree K V}
    (matched : Matches grammar caller clause tokens context tree rest after) :
    Predicted grammar clause tokens (.matched tree rest after) where
  reads eq member := by
    subst eq
    exact (matched.foretold coherent).suffix matched.suffix member
  succeeds other _ := by
    obtain ⟨rfl, -⟩ := (matched.foretold coherent).unread (starts_eq_false_iff.mpr other)
    exact ⟨tree, after, rfl⟩
  fails other needed := by
    have nothing := ((matched.foretold coherent).unread (starts_eq_false_iff.mpr other)).2
    rw [needed] at nothing
    cases nothing

theorem Stops.suffix {call : Call K C} {cause : Stop K} {rest : List (Token K)} {after : C}
    (stops : Stops grammar call cause rest after) : rest <:+ call.tokens := by
  obtain ⟨depth, site, reached, -, rfl, -⟩ := stops
  exact reached.suffix

theorem Stops.predicted (coherent : grammar.Coherent) {call : Call K C}
    (closed : grammar.Closed call.clause) {cause : Stop K} {rest : List (Token K)} {after : C}
    (stops : Stops grammar call cause rest after) :
    Predicted grammar call.clause call.tokens (.stopped cause rest after) where
  reads eq member := by
    have foretold := stops.foretold coherent
    have suffix := stops.suffix
    rw [eq] at foretold suffix
    exact foretold.suffix suffix member
  succeeds other nothing := by
    have needed := ((stops.foretold coherent).unread (starts_eq_false_iff.mpr other)).2
    rw [nothing] at needed
    cases needed
  fails other _ := by
    obtain ⟨rfl, -⟩ := (stops.foretold coherent).unread (starts_eq_false_iff.mpr other)
    obtain ⟨kinds, rule, rfl⟩ := stops.expecting coherent closed
    exact ⟨kinds, rule, after, rfl⟩

/-- An outcome that does not come from the bound is predicted. -/
theorem run_predicted (coherent : grammar.Coherent) (call : Call K C)
    (closed : grammar.Closed call.clause) {bound : Nat}
    (finished : (grammar.run bound call).Finished) :
    Predicted grammar call.clause call.tokens (grammar.run bound call) := by
  have explained := run_explained grammar bound call
  cases answer : grammar.run bound call with
  | matched tree rest after =>
    rw [answer] at explained
    exact Matches.predicted coherent explained
  | stopped cause rest after =>
    rw [answer] at explained finished
    rcases explained with stops | ⟨site, -, cut, -⟩
    · exact stops.predicted coherent closed
    · cases cut with
      | rule => exact absurd rfl (finished _ _ _)

/-! ### Loops -/

/-- A match that reads a token has leaves. -/
theorem Matches.leaves_ne_nil (coherent : grammar.Coherent) {caller : String} {clause : Clause K}
    {tokens rest : List (Token K)} {context after : C} {tree : Tree K V}
    (matched : Matches grammar caller clause tokens context tree rest after)
    (starts : grammar.starts clause (nextKind tokens) = true) : tree.leaves ≠ [] := by
  intro bare
  have shorter := (matched.foretold coherent).read starts
  have all := matched.leaves_append
  rw [bare, List.nil_append] at all
  rw [all] at shorter
  exact lt_irrefl _ shorter

/-- The items of a repetition that need not be there are not empty. -/
theorem Matches.items_of_zeroOrMore (coherent : grammar.Coherent) {caller : String}
    {body : Clause K} {tokens rest : List (Token K)} {context after : C} {tree : Tree K V}
    (matched : Matches grammar caller (.zeroOrMore body) tokens context tree rest after) :
    ∃ items, tree = .many items ∧ ∀ item ∈ items, item.leaves ≠ [] := by
  generalize loop : Clause.zeroOrMore body = clause at matched
  induction matched with
  | stop => exact ⟨[], rfl, by simp⟩
  | more starts round _ _ _ ih =>
    obtain ⟨items, eq, full⟩ := ih loop
    cases eq
    exact ⟨_, rfl, List.forall_mem_cons.mpr ⟨round.leaves_ne_nil coherent starts, full⟩⟩
  | idle starts round same _ =>
    have shorter := (round.foretold coherent).read starts
    omega
  | _ => cases loop

/-- The items of a repetition that has to be there are not empty either, or there is a single one
and the body is nullable. -/
theorem Matches.items_of_oneOrMore (coherent : grammar.Coherent) {caller : String}
    {body : Clause K} {tokens rest : List (Token K)} {context after : C} {tree : Tree K V}
    (matched : Matches grammar caller (.oneOrMore body) tokens context tree rest after) :
    ∃ items, tree = .many items ∧ items ≠ [] ∧ ((∀ item ∈ items, item.leaves ≠ []) ∨
      grammar.nullable body = true ∧ ∃ item, items = [item] ∧ item.leaves = []) := by
  cases matched with
  | oneOrMore rounds =>
    obtain ⟨items, eq, full⟩ := rounds.items_of_zeroOrMore coherent
    cases eq
    exact ⟨_, rfl, List.cons_ne_nil _ _, Or.inl full⟩
  | @once _ _ _ _ _ _ item ended nothing only =>
    obtain ⟨rfl, -⟩ := (only.foretold coherent).unread ended
    have bare : item.leaves = [] := by simpa using only.leaves_append
    exact ⟨_, rfl, List.cons_ne_nil _ _, Or.inr ⟨nothing, item, rfl, bare⟩⟩

/-- A loop goes on after every round: no round is idle. -/
theorem repeated_visitor_goes_on (coherent : grammar.Coherent) (bound : Nat) (caller : String)
    (body : Clause K) (tokens : List (Token K)) (context : C) :
    let visit := grammar.matchClause (grammar.visitor bound) caller body
    Matcher.repeated (grammar.starts body) visit tokens context =
      if grammar.starts body (nextKind tokens) then
        (visit tokens context).andThen fun item rest after =>
          (Matcher.repeated (grammar.starts body) visit rest after).map (item :: ·)
      else .matched [] tokens context := by
  dsimp only
  rw [repeated_visitor_eq]
  cases starts : grammar.starts body (nextKind tokens) with
  | false => rfl
  | true =>
    rw [if_pos rfl, if_pos rfl]
    cases round : grammar.matchClause (grammar.visitor bound) caller body tokens context with
    | stopped cause rest after => rfl
    | matched item rest after =>
      have shorter := ((matches_of_matchClause round).foretold coherent).read starts
      simp only [Outcome.andThen, if_neg (Nat.ne_of_lt shorter)]

/-! ### Prediction -/

/-- First sets and nullability predict exactly what the matcher makes of a clause of a resolved
grammar, wherever it stands: the outcome of the clause is as predicted, a loop over the clause
goes on after every round, and if the clause is a loop itself, its items are not empty. -/
theorem first_predicts_run (resolved : grammar.Resolved) {clause : Clause K}
    (closed : grammar.Closed clause) (caller : String) (tokens : List (Token K)) (context : C)
    (bound : Nat) :
    let visit := grammar.matchClause (grammar.visitor bound) caller clause
    let outcome := visit tokens context
    (grammar.nestingBound tokens ≤ bound → outcome.Finished) ∧
    (outcome.Finished → Predicted grammar clause tokens outcome) ∧
    Matcher.repeated (grammar.starts clause) visit tokens context =
      (if grammar.starts clause (nextKind tokens) then
        outcome.andThen fun item rest after =>
          (Matcher.repeated (grammar.starts clause) visit rest after).map (item :: ·)
      else .matched [] tokens context) ∧
    (∀ body tree rest after, clause = .zeroOrMore body → outcome = .matched tree rest after →
      ∃ items, tree = .many items ∧ ∀ item ∈ items, item.leaves ≠ []) ∧
    ∀ body tree rest after, clause = .oneOrMore body → outcome = .matched tree rest after →
      ∃ items, tree = .many items ∧ items ≠ [] ∧ ((∀ item ∈ items, item.leaves ≠ []) ∨
        grammar.nullable body = true ∧ ∃ item, items = [item] ∧ item.leaves = []) := by
  have coherent := resolved.coherent
  intro visit outcome
  refine ⟨fun enough => ?_, fun finished => ?_, ?_, ?_, ?_⟩
  · exact run_finished coherent ⟨caller, clause, tokens, context⟩ enough
  · exact run_predicted coherent ⟨caller, clause, tokens, context⟩ closed finished
  · exact repeated_visitor_goes_on coherent bound caller clause tokens context
  · rintro body tree rest after rfl matched
    exact (matches_of_matchClause matched).items_of_zeroOrMore coherent
  · rintro body tree rest after rfl matched
    exact (matches_of_matchClause matched).items_of_oneOrMore coherent

/-- In front of a closing bracket the list has no more items, and the bracket is left. -/
theorem first_predicts_run_list :
    Sample.grammar.Resolved ∧ Sample.grammar.Closed Sample.others ∧
      ∃ tree after, Sample.grammar.matchClause (Sample.grammar.visitor 4) "list" Sample.others
        (Sample.tokens [.closing]) () = .matched tree (Sample.tokens [.closing]) after := by
  have closed : Sample.grammar.Closed Sample.others := by
    unfold Closed
    decide
  obtain ⟨finished, predicted, -⟩ :=
    first_predicts_run Sample.resolved closed "list" (Sample.tokens [.closing]) () 4
  have absent : ∀ kind ∈ nextKind (Sample.tokens [.closing]),
      kind ∉ Sample.grammar.firstOf Sample.others := by
    rintro kind ⟨⟩
    decide
  exact ⟨Sample.resolved, closed, (predicted (finished le_rfl)).succeeds absent rfl⟩

end Grammar

end Lookahead
