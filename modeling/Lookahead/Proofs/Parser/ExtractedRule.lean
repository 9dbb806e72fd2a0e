import Lookahead.Proofs.Grammar.Extraction
import Lookahead.Proofs.Parser.Correspondence
import Lookahead.Proofs.Parser.GoalStack

/-!
# Parsing with a construct as a rule of its own

A rule decides by the sets that are kept with it, a construct by its clauses, and a loop goes round
where a rule calls itself again. The decisions are the same ones: what a construct goes on with is
what the alternative goes on with that its rule takes. So parses go in lockstep whether a construct
stands in its place or a rule for it does.

Main statement: `Grammar.parseTokens_extracted`.
-/

namespace Lookahead

namespace Grammar

variable {K V V' C C' : Type} [TokenKind K] {grammar : Grammar K V C} {grammar' : Grammar K V' C'}
  {construct : Clause K} {name : String}

/-- The goals are for a clause and for the clause with the rule in the place of the construct, each
in whatever rule it stands in. -/
def Folded (construct : Clause K) (name : String) (goal goal' : Goal K) : Prop :=
  Clause.Folds construct name goal.clause goal'.clause

omit [TokenKind K] in
theorem folded_list {rule rule' : String} {items items' : List (Clause K)}
    (lists : List.Forall₂ (Clause.Folds construct name) items items') :
    List.Forall₂ (Folded construct name) (Goal.list rule items) (Goal.list rule' items') := by
  rw [Goal.list, Goal.list, List.forall₂_map_left_iff, List.forall₂_map_right_iff]
  exact lists

/-- A resolved grammar and a resolved grammar in which a construct is a rule of its own. -/
structure Extraction (grammar : Grammar K V C) (grammar' : Grammar K V' C') (construct : Clause K)
    (name : String) : Prop where
  resolved : grammar.Resolved
  resolved' : grammar'.Resolved
  extracts : Extracts grammar grammar' construct name

namespace Extraction

variable (extraction : Extraction grammar grammar' construct name) {clause clause' : Clause K}

include extraction

theorem folding : Folding grammar.alternatives grammar'.alternatives construct name :=
  extraction.extracts.folding extraction.resolved.coherent

theorem starts_eq (folds : Clause.Folds construct name clause clause') (next : Option K) :
    grammar.starts clause next = grammar'.starts clause' next :=
  (extraction.extracts.bisimulation extraction.resolved.coherent).starts_eq extraction.resolved
    extraction.resolved' folds next

theorem nullable_eq (folds : Clause.Folds construct name clause clause') :
    grammar.nullable clause = grammar'.nullable clause' :=
  (extraction.extracts.bisimulation extraction.resolved.coherent).nullable_eq extraction.resolved
    extraction.resolved' folds

/-- The goals in a construct are those in its rule. -/
theorem goalsIn?_construct {next : Option K} {rule rule' : String}
    (needed : grammar.starts construct next = true ∨ grammar.nullable construct = false) :
    Option.Rel (List.Forall₂ (Folded construct name)) (grammar.goalsIn? next ⟨rule, construct⟩)
      (grammar'.goalsIn? next ⟨rule', .rule name⟩) := by
  obtain ⟨unused, expanded, -⟩ := extraction.folding
  have kept (clause : Clause K) (unused : name ∉ clause.ruleNames) :
      Clause.Folds construct name clause clause := Clause.folds_self clause unused
  -- The first item of an alternative decides about it if it begins with the next token.
  have leads (body : Clause K) (unused : name ∉ body.ruleNames) (items : List (Clause K))
      (starts : grammar.starts body next = true) :
      grammar'.starts (.sequence (body :: items)) next = true := by
    rw [starts_sequence_cons, ← extraction.starts_eq (kept body unused), starts, Bool.true_or]
  cases construct with
  | terminal | rule | sequence | group => cases expanded
  | choice members =>
    have lists : List.Forall₂ (fun member clauses => [member] = clauses ∧ name ∉ member.ruleNames)
        members (members.map ([·])) := by
      rw [List.forall₂_map_right_iff]
      exact List.forall₂_same.mpr fun member among => ⟨rfl, Clause.not_mem_ruleNames unused among⟩
    simp only [Grammar.goalsIn?, ← Option.some.inj expanded]
    -- A member is looked for by its first set, an alternative by that of the member in it.
    refine rel_map (rel_find? ?_ lists) ?_
    · rintro member _ ⟨rfl, unused⟩
      rw [starts_sequence_cons, starts_sequence_nil, Bool.and_false, Bool.or_false,
        extraction.starts_eq (kept member unused)]
    · rintro member _ ⟨rfl, unused⟩
      exact folded_list (.cons (kept member unused) .nil)
  | zeroOrMore body =>
    have starts : grammar.starts body next = true := by
      rcases needed with starts | needed
      · rwa [starts_zeroOrMore] at starts
      · cases needed
    simp only [Grammar.goalsIn?, ← Option.some.inj expanded, List.find?_cons,
      leads body unused _ starts]
    exact .some (folded_list (.cons (kept body unused) (.cons .fold .nil)))
  | oneOrMore body =>
    simp only [Grammar.goalsIn?, ← Option.some.inj expanded, List.find?_cons, List.find?_nil]
    cases starts : grammar.starts body next with
    | true =>
      rw [leads body unused _ starts]
      exact .some (folded_list (.cons (kept body unused)
        (.cons (kept (.zeroOrMore body) unused) .nil)))
    | false =>
      have starts' : grammar'.starts (.sequence [body, .zeroOrMore body]) next = false := by
        rw [starts_sequence_cons, starts_sequence_cons, starts_sequence_nil, starts_zeroOrMore,
          ← extraction.starts_eq (kept body unused), starts]
        simp
      rw [starts']
      exact .none
  | optional body =>
    have starts : grammar.starts body next = true := by
      rcases needed with starts | needed
      · rwa [starts_optional] at starts
      · cases needed
    simp only [Grammar.goalsIn?, ← Option.some.inj expanded, List.find?_cons,
      leads body unused _ starts]
    exact .some (folded_list (.cons (kept body unused) .nil))

/-- A step does the same with a goal and with the goal that has the rule in the place of the
construct. -/
theorem goalsIn? {goal goal' : Goal K} {next : Option K} (alike : Folded construct name goal goal')
    (needed : grammar.starts goal.clause next = true ∨ grammar.nullable goal.clause = false) :
    Option.Rel (List.Forall₂ (Folded construct name)) (grammar.goalsIn? next goal)
      (grammar'.goalsIn? next goal') := by
  obtain ⟨rule, clause⟩ := goal
  obtain ⟨rule', clause'⟩ := goal'
  have starts_eq {clause clause' : Clause K} (folds : Clause.Folds construct name clause clause') :=
    extraction.starts_eq folds next
  have folds : Clause.Folds construct name clause clause' := alike
  cases folds with
  | fold => exact extraction.goalsIn?_construct needed
  | terminal kind => exact .none
  | rule different =>
    exact rel_map (rel_find? (fun _ _ lists => starts_eq (.sequence lists))
      (extraction.folding.others different)) fun _ _ lists => folded_list lists
  | sequence lists => exact .some (folded_list lists)
  | choice lists =>
    exact rel_map (rel_find? (fun _ _ inner => starts_eq inner) lists) fun _ _ inner =>
      folded_list (.cons inner .nil)
  | zeroOrMore inner => exact .some (folded_list (.cons inner (.cons (.zeroOrMore inner) .nil)))
  | oneOrMore inner =>
    simp only [Grammar.goalsIn?, ← starts_eq inner]
    split
    · exact .some (folded_list (.cons inner (.cons (.zeroOrMore inner) .nil)))
    · exact .none
  | optional inner => exact .some (folded_list (.cons inner .nil))
  | group label inner => exact .some (folded_list (.cons inner .nil))

theorem lockstep : Lockstep grammar grammar' (Folded construct name) where
  starts alike := extraction.starts_eq alike
  nullable alike := extraction.nullable_eq alike
  terminal {goal goal' kind} alike same := by
    have folds : Clause.Folds construct name goal.clause goal'.clause := alike
    rw [same] at folds
    exact extraction.folding.forth.terminal folds
  goalsIn? alike needed := extraction.goalsIn? alike needed

end Extraction

/-- The constructs of extended BNF agree with their expansion into rules. If an occurrence of a
construct is replaced by a new rule that stands for it, then parsing from any rule of the old grammar
agrees by both grammars on whether there is an error, on how many tokens are read and on whether
these are all. -/
theorem parseTokens_extracted (resolved : grammar.Resolved) (resolved' : grammar'.Resolved)
    (extracts : Extracts grammar grammar' construct name) {start : String}
    (defined : start ∈ grammar.ruleNames) (tokens : List (Token K)) (context : C) (context' : C') :
    let result := (grammar.parseTokens tokens start context).1
    let result' := (grammar'.parseTokens tokens start context').1
    result.isError = result'.isError ∧ result.endingPosition = result'.endingPosition ∧
      result.isEnded = result'.isEnded := by
  intro result result'
  have extraction : Extraction grammar grammar' construct name := ⟨resolved, resolved', extracts⟩
  have different : start ≠ name := by
    rintro rfl
    exact extracts.fresh defined
  have defined' := extracts.defined resolved defined
  obtain ⟨cause, cause', rest, reports, reports', causes⟩ :=
    extraction.lockstep.parseTokens resolved.coherent resolved'.coherent defined defined'
      (.rule different) tokens context context'
  have ended : cause.isNone = cause'.isNone := by cases causes <;> rfl
  have failed {V C : Type} {grammar : Grammar K V C} {context : C} {cause : Option (Stop K)}
      (reports : Reports (grammar.parseTokens tokens start context).1 tokens cause rest) :
      (grammar.parseTokens tokens start context).1.isError = !cause.isNone := by
    rw [ParseResult.isError, reports.errors]
    cases cause <;> rfl
  exact ⟨by rw [failed reports, failed reports', ended],
    reports.endingPosition.trans reports'.endingPosition.symm,
    by rw [reports.isEnded, reports'.isEnded, ended]⟩

end Grammar

namespace Sample

/-- Lists with a rule for what stands behind the first item. The rule mentions itself where the loop
goes round. -/
def unrolled : List (SemanticProduction Mark Nat Unit) :=
  [⟨⟨"list", [.rule "item", .rule "rest"]⟩, fun children _ => (children.length, ())⟩,
    ⟨⟨"item", [.terminal .word]⟩, fun _ _ => (1, ())⟩,
    ⟨⟨"item", [.terminal .opening, .rule "list", .terminal .closing]⟩, fun _ _ => (1, ())⟩,
    ⟨⟨"item", []⟩, fun _ _ => (0, ())⟩,
    ⟨⟨"rest", [.group (.sequence [.terminal .comma, .rule "item"]) none, .rule "rest"]⟩,
      fun _ _ => (0, ())⟩,
    ⟨⟨"rest", []⟩, fun _ _ => (0, ())⟩]

theorem extracts_unrolled :
    Grammar.Extracts grammar (Resolve.grammar unrolled) others "rest" where
  fresh := by decide
  expanded := rfl
  occurrence := by
    refine ⟨"list", [], _, _, [], rfl, rfl, .sequence [.rule "item"] [] .here,
      fun name other fresh => ?_⟩
    have lists : (Grammar.resolve .reject [] productions).value = some grammar := rfl
    have rules : (Grammar.resolve .reject [] unrolled).value =
        some (Resolve.grammar unrolled) := rfl
    rw [Grammar.alternatives_of_resolve lists, Grammar.alternatives_of_resolve rules]
    by_cases item : name = "item"
    · subst item
      rfl
    · simp [Production.alternatives, Resolve.bare, unrolled, productions, other.symm, fresh.symm,
        Ne.symm item]

end Sample

/-- Lists are parsed alike whether what stands behind the first item is a loop or a rule. -/
theorem Grammar.parseTokens_extracted_list :
    Sample.grammar.Resolved ∧ (Resolve.grammar Sample.unrolled).Resolved ∧
      Extracts Sample.grammar (Resolve.grammar Sample.unrolled) Sample.others "rest" ∧
      "list" ∈ Sample.grammar.ruleNames ∧
      ∀ tokens, (Sample.grammar.parseTokens tokens "list" ()).1.endingPosition =
        ((Resolve.grammar Sample.unrolled).parseTokens tokens "list" ()).1.endingPosition := by
  have resolved' : (Resolve.grammar Sample.unrolled).Resolved := ⟨.reject, [], Sample.unrolled, rfl⟩
  have defined : "list" ∈ Sample.grammar.ruleNames := by decide
  exact ⟨Sample.resolved, resolved', Sample.extracts_unrolled, defined, fun tokens =>
    (parseTokens_extracted Sample.resolved resolved' Sample.extracts_unrolled defined tokens ()
      ()).2.1⟩

end Lookahead
