import Lookahead.Proofs.Parser.Termination
import Mathlib.Data.List.Forall2

/-!
# Parsing with a stack of goals

Apart from trees and actions, a parse can be run with a stack of clauses that are still to be
matched. The clause on top is left out if it is nullable and the next token cannot begin it; else it
is replaced by what the next token makes of it, or reads the token, or stops the run. Each step
looks at one clause and one token only. So if the clauses on two stacks correspond in what a step
does with them, the runs correspond as a whole, also for grammars that are not written alike.

Main statements: `Grammar.exists_runs` (a parse is a run) and `Grammar.Runs.lockstep`.
-/

namespace Lookahead

theorem rel_map {α β γ δ : Type} {related : α → β → Prop} {related' : γ → δ → Prop}
    {make : α → γ} {make' : β → δ} {entry : Option α} {entry' : Option β}
    (entries : Option.Rel related entry entry')
    (each : ∀ a b, related a b → related' (make a) (make' b)) :
    Option.Rel related' (entry.map make) (entry'.map make') := by
  cases entries with
  | none => exact .none
  | some alike => exact .some (each _ _ alike)

/-- A clause that is still to be matched, and the rule that it stands in. -/
structure Goal (K : Type) where
  rule : String
  clause : Clause K

/-- The goals for clauses that stand in the rule one behind the other. -/
def Goal.list {K : Type} (rule : String) (clauses : List (Clause K)) : List (Goal K) :=
  clauses.map (Goal.mk rule)

/-- The rule that tells of a failure to match the goal. -/
def Goal.owner {K : Type} (goal : Goal K) : String :=
  match goal.clause with
  | .rule name => name
  | _ => goal.rule

namespace Grammar

variable {K V C : Type} [TokenKind K] {grammar : Grammar K V C}

/-- What is to be matched in the place of a goal that is not left out. Nothing is known for a
terminal, and where no alternative or member begins with the next token. -/
def goalsIn? (grammar : Grammar K V C) (next : Option K) (goal : Goal K) :
    Option (List (Goal K)) :=
  match goal.clause with
  | .terminal _ => none
  | .rule name =>
    ((grammar.alternatives name).find? fun clauses => grammar.starts (.sequence clauses) next).map
      (Goal.list name)
  | .sequence items => some (Goal.list goal.rule items)
  | .choice members =>
    (members.find? (grammar.starts · next)).map fun member => Goal.list goal.rule [member]
  | .zeroOrMore body => some (Goal.list goal.rule [body, .zeroOrMore body])
  | .oneOrMore body =>
    if grammar.starts body next then some (Goal.list goal.rule [body, .zeroOrMore body]) else none
  | .optional body => some (Goal.list goal.rule [body])
  | .group body _ => some (Goal.list goal.rule [body])

/-- What is to be matched in the place of a goal: nothing for a nullable clause that the next token
cannot begin. -/
def expand? (grammar : Grammar K V C) (next : Option K) (goal : Goal K) :
    Option (List (Goal K)) :=
  if grammar.starts goal.clause next = false ∧ grammar.nullable goal.clause = true then some []
  else grammar.goalsIn? next goal

/-- The cause that is told where a goal stops the run. -/
def blame (grammar : Grammar K V C) (goal : Goal K) : Stop K :=
  .expecting (grammar.firstOf goal.clause) goal.owner

/-- The run with the goals in front of some tokens, as far as the tokens that are left: all goals
are matched, or there is a cause to stop. -/
inductive Runs (grammar : Grammar K V C) :
    List (Goal K) → List (Token K) → Option (Stop K) → List (Token K) → Prop
  | done (tokens) : Runs grammar [] tokens none tokens
  | read {rule kind token goals tokens cause rest} :
      token.kind = kind → Runs grammar goals tokens cause rest →
      Runs grammar (⟨rule, .terminal kind⟩ :: goals) (token :: tokens) cause rest
  | expand {goal inner goals tokens cause rest} :
      grammar.expand? (nextKind tokens) goal = some inner →
      Runs grammar (inner ++ goals) tokens cause rest →
      Runs grammar (goal :: goals) tokens cause rest
  | blocked {goal goals tokens} :
      grammar.starts goal.clause (nextKind tokens) = false →
      grammar.expand? (nextKind tokens) goal = none →
      Runs grammar (goal :: goals) tokens (some (grammar.blame goal)) tokens

/-! ### Steps -/

section Steps

variable {next : Option K} {goal : Goal K}

theorem expand?_eq_nil (ended : grammar.starts goal.clause next = false)
    (nothing : grammar.nullable goal.clause = true) : grammar.expand? next goal = some [] :=
  if_pos ⟨ended, nothing⟩

/-- A goal that cannot be left out gives way to the goals in it. -/
theorem expand?_eq_goalsIn?
    (needed : grammar.starts goal.clause next = true ∨ grammar.nullable goal.clause = false) :
    grammar.expand? next goal = grammar.goalsIn? next goal := by
  refine if_neg ?_
  rintro ⟨ended, nothing⟩
  rcases needed with starts | needed
  · rw [ended] at starts
    cases starts
  · rw [nothing] at needed
    cases needed

theorem expand?_terminal (rule : String) (kind : K) :
    grammar.expand? next ⟨rule, .terminal kind⟩ = none :=
  expand?_eq_goalsIn? (Or.inr rfl)

theorem starts_terminal {token : Token K} {kind : K} (same : token.kind = kind)
    (tokens : List (Token K)) :
    grammar.starts (.terminal kind) (nextKind (token :: tokens)) = true := by
  simp [starts, Clause.starts, nextKind, same]

variable {goals : List (Goal K)} {tokens rest : List (Token K)} {cause : Option (Stop K)}

/-- There is nothing to do with a goal that is expanded but to expand it. -/
theorem runs_iff_of_expand? {inner : List (Goal K)}
    (known : grammar.expand? (nextKind tokens) goal = some inner) :
    Runs grammar (goal :: goals) tokens cause rest ↔
      Runs grammar (inner ++ goals) tokens cause rest := by
  constructor
  · intro run
    cases run with
    | read =>
      rw [expand?_terminal] at known
      cases known
    | expand same run =>
      cases known.symm.trans same
      exact run
    | blocked _ missing => cases known.symm.trans missing
  · exact .expand known

/-- There is one run only. -/
theorem Runs.unique {cause' : Option (Stop K)} {rest' : List (Token K)}
    (run : Runs grammar goals tokens cause rest) (run' : Runs grammar goals tokens cause' rest') :
    cause = cause' ∧ rest = rest' := by
  induction run with
  | done =>
    cases run'
    exact ⟨rfl, rfl⟩
  | read same _ ih =>
    cases run' with
    | read _ later => exact ih later
    | expand known =>
      rw [expand?_terminal] at known
      cases known
    | blocked ended =>
      rw [starts_terminal same] at ended
      cases ended
  | expand known _ ih => exact ih ((runs_iff_of_expand? known).mp run')
  | blocked ended missing =>
    cases run' with
    | read same =>
      rw [starts_terminal same] at ended
      cases ended
    | expand known => cases missing.symm.trans known
    | blocked => exact ⟨rfl, rfl⟩

/-! ### Sequences -/

/-- Clauses that are left out one after the other are all left out. -/
theorem runs_list_iff_of_nullable {rule : String} {items : List (Clause K)}
    (ended : ∀ item ∈ items, grammar.starts item (nextKind tokens) = false)
    (nothing : ∀ item ∈ items, grammar.nullable item = true) :
    Runs grammar (Goal.list rule items ++ goals) tokens cause rest ↔
      Runs grammar goals tokens cause rest := by
  induction items with
  | nil => rfl
  | cons item items ih =>
    obtain ⟨here, later⟩ := List.forall_mem_cons.mp ended
    obtain ⟨empty, others⟩ := List.forall_mem_cons.mp nothing
    have skipped : grammar.expand? (nextKind tokens) ⟨rule, item⟩ = some [] :=
      expand?_eq_nil here empty
    exact (runs_iff_of_expand? skipped).trans (ih later others)

theorem nothing_starts_of_sequence {items : List (Clause K)}
    (ended : grammar.starts (.sequence items) next = false)
    (nothing : grammar.nullable (.sequence items) = true) :
    ∀ item ∈ items, grammar.starts item next = false ∧ grammar.nullable item = true := by
  induction items with
  | nil => simp
  | cons item items ih =>
    rw [nullable_sequence_cons, Bool.and_eq_true] at nothing
    rw [starts_sequence_cons, nothing.1, Bool.true_and, Bool.or_eq_false_iff] at ended
    exact List.forall_mem_cons.mpr ⟨⟨ended.1, nothing.1⟩, ih ended.2 nothing.2⟩

/-- A sequence is run as its items one after the other. -/
theorem runs_sequence_iff {rule : String} {items : List (Clause K)} :
    Runs grammar (⟨rule, .sequence items⟩ :: goals) tokens cause rest ↔
      Runs grammar (Goal.list rule items ++ goals) tokens cause rest := by
  by_cases idle : grammar.starts (.sequence items) (nextKind tokens) = false ∧
      grammar.nullable (.sequence items) = true
  · -- The sequence is left out as a whole, and so would each of its items be.
    have each := nothing_starts_of_sequence idle.1 idle.2
    have skipped : grammar.expand? (nextKind tokens) ⟨rule, .sequence items⟩ = some [] :=
      if_pos idle
    rw [runs_iff_of_expand? skipped, runs_list_iff_of_nullable (fun item member => (each item member).1)
      (fun item member => (each item member).2), List.nil_append]
  · have unfolded : grammar.expand? (nextKind tokens) ⟨rule, .sequence items⟩ =
        some (Goal.list rule items) := if_neg idle
    exact runs_iff_of_expand? unfolded

/-! ### What is taken -/

/-- Where the next token begins a member of the choice, the member that is picked is the first
such. -/
theorem find?_members {members : List (Clause K)}
    (starts : grammar.starts (.choice members) next = true) :
    members.find? (grammar.starts · next) = grammar.pick members next := by
  obtain ⟨member, among, begins⟩ := starts_choice.mp starts
  have some : (members.find? (grammar.starts · next)).isSome :=
    List.find?_isSome.mpr ⟨member, among, begins⟩
  obtain ⟨first, early⟩ := Option.isSome_iff_exists.mp some
  rw [pick, early, Option.some_or]

/-- Where the next token begins an alternative of the rule, the one that is chosen is the first
such. -/
theorem find?_alternatives (coherent : grammar.Coherent) {name : String} {rule : Rule K V C}
    (found : grammar.rule? name = some rule) (starts : grammar.starts (.rule name) next = true) :
    ((grammar.alternatives name).find? fun clauses => grammar.starts (.sequence clauses) next) =
      (rule.choose next).map (·.1.clauses) := by
  have numbered : grammar.alternatives name = rule.alternatives.zipIdx.map (·.1.clauses) := by
    have entries := List.zipIdx_map_fst 0 rule.alternatives
    rw [alternatives_of_some found, ← congrArg (List.map Alternative.clauses) entries, List.map_map]
    rfl
  obtain ⟨alternative, member, begins⟩ := (starts_rule coherent found).mp starts
  obtain ⟨index, position⟩ := List.mem_iff_getElem?.mp member
  have listed : (alternative, index) ∈ rule.alternatives.zipIdx :=
    List.mem_zipIdx_iff_getElem?.mpr position
  have some : (rule.alternatives.zipIdx.find? fun entry =>
      grammar.starts (.sequence entry.1.clauses) next).isSome :=
    List.find?_isSome.mpr ⟨_, listed, begins⟩
  obtain ⟨entry, early⟩ := Option.isSome_iff_exists.mp some
  rw [numbered, List.find?_map, Function.comp_def, choose_eq coherent found, early, Option.some_or]

/-! ### Clauses that the next token begins -/

variable {caller : String}

theorem expand?_rule (coherent : grammar.Coherent) {name : String} {rule : Rule K V C}
    {alternative : Alternative K V C} {number : Nat} (found : grammar.rule? name = some rule)
    (chosen : rule.choose next = some (alternative, number))
    (starts : grammar.starts (.rule name) next = true) :
    grammar.expand? next ⟨caller, .rule name⟩ =
      some (Goal.list rule.name alternative.clauses) := by
  rw [expand?_eq_goalsIn? (Or.inl starts)]
  simp only [goalsIn?, find?_alternatives coherent found starts, chosen, Option.map_some,
    (rule?_eq_some found).2]

theorem expand?_choice {members : List (Clause K)} {member : Clause K}
    (picked : grammar.pick members next = some member)
    (starts : grammar.starts (.choice members) next = true) :
    grammar.expand? next ⟨caller, .choice members⟩ = some (Goal.list caller [member]) := by
  rw [expand?_eq_goalsIn? (Or.inl starts)]
  simp only [goalsIn?, find?_members starts, picked, Option.map_some]

theorem expand?_zeroOrMore {body : Clause K} (starts : grammar.starts body next = true) :
    grammar.expand? next ⟨caller, .zeroOrMore body⟩ =
      some (Goal.list caller [body, .zeroOrMore body]) :=
  expand?_eq_goalsIn? (Or.inl (by rwa [starts_zeroOrMore]))

theorem expand?_oneOrMore {body : Clause K} (starts : grammar.starts body next = true) :
    grammar.expand? next ⟨caller, .oneOrMore body⟩ =
      some (Goal.list caller [body, .zeroOrMore body]) := by
  rw [expand?_eq_goalsIn? (Or.inl (by rwa [starts_oneOrMore]))]
  simp only [goalsIn?, starts, if_true]

theorem expand?_optional {body : Clause K} (starts : grammar.starts body next = true) :
    grammar.expand? next ⟨caller, .optional body⟩ = some (Goal.list caller [body]) :=
  expand?_eq_goalsIn? (Or.inl (by rwa [starts_optional]))

/-- Where a loop goes round, it does so first if it has to. -/
theorem runs_oneOrMore_iff {body : Clause K}
    (starts : grammar.starts body (nextKind tokens) = true) :
    Runs grammar (⟨caller, .oneOrMore body⟩ :: goals) tokens cause rest ↔
      Runs grammar (⟨caller, .zeroOrMore body⟩ :: goals) tokens cause rest := by
  rw [runs_iff_of_expand? (expand?_oneOrMore starts),
    runs_iff_of_expand? (expand?_zeroOrMore starts)]

theorem runs_group_iff {body : Clause K} {label : Option String} :
    Runs grammar (⟨caller, .group body label⟩ :: goals) tokens cause rest ↔
      Runs grammar (⟨caller, body⟩ :: goals) tokens cause rest := by
  by_cases idle : grammar.starts body (nextKind tokens) = false ∧ grammar.nullable body = true
  · have outer : grammar.expand? (nextKind tokens) ⟨caller, .group body label⟩ = some [] :=
      expand?_eq_nil (by rw [starts_group, idle.1]) idle.2
    have inner : grammar.expand? (nextKind tokens) ⟨caller, body⟩ = some [] := if_pos idle
    rw [runs_iff_of_expand? outer, runs_iff_of_expand? inner]
  · have unfolded : grammar.expand? (nextKind tokens) ⟨caller, .group body label⟩ =
        some (Goal.list caller [body]) :=
      if_neg fun outer => idle ⟨by rw [← starts_group, outer.1], outer.2⟩
    exact runs_iff_of_expand? unfolded

end Steps

/-! ### Matches and stops are runs -/

variable {goals : List (Goal K)} {final : List (Token K)}

/-- Behind a match the run goes on with the other goals. -/
theorem Matches.runs (coherent : grammar.Coherent) {caller : String} {clause : Clause K}
    {tokens rest : List (Token K)} {context after : C} {tree : Tree K V}
    (matched : Matches grammar caller clause tokens context tree rest after)
    {cause : Option (Stop K)} (behind : Runs grammar goals rest cause final) :
    Runs grammar (⟨caller, clause⟩ :: goals) tokens cause final := by
  induction matched generalizing goals with
  | terminal => exact .read rfl behind
  | @rule caller name rule alternative number tokens rest context after children found chosen inner
      ih =>
    have own : Matches grammar caller (.rule name) _ _ _ _ _ := .rule found chosen inner
    cases starts : grammar.starts (.rule name) (nextKind tokens) with
    | false =>
      -- The match has read nothing, and the goal is left out.
      obtain ⟨rfl, nothing⟩ := (own.foretold coherent).unread starts
      exact .expand (expand?_eq_nil starts nothing) behind
    | true =>
      exact .expand (expand?_rule coherent found chosen starts) (runs_sequence_iff.mp (ih behind))
  | nil => exact runs_sequence_iff.mpr behind
  | cons _ _ first others =>
    exact runs_sequence_iff.mpr (first (runs_sequence_iff.mp (others behind)))
  | @choice caller members member tokens rest context after tree picked inner ih =>
    have own : Matches grammar caller (.choice members) _ _ _ _ _ := .choice picked inner
    cases starts : grammar.starts (.choice members) (nextKind tokens) with
    | false =>
      obtain ⟨rfl, nothing⟩ := (own.foretold coherent).unread starts
      exact .expand (expand?_eq_nil starts nothing) behind
    | true => exact .expand (expand?_choice picked starts) (ih behind)
  | stop ended => exact .expand (expand?_eq_nil (by rwa [starts_zeroOrMore]) rfl) behind
  | more starts _ _ _ first others =>
    exact .expand (expand?_zeroOrMore starts) (first (others behind))
  | idle starts inner same =>
    -- A round that the next token begins reads it.
    have read := (inner.foretold coherent).read starts
    omega
  | oneOrMore rounds ih => exact (runs_oneOrMore_iff rounds.starts).mpr (ih behind)
  | once ended nothing inner =>
    obtain ⟨rfl, -⟩ := (inner.foretold coherent).unread ended
    exact .expand (expand?_eq_nil (by rwa [starts_oneOrMore]) nothing) behind
  | absent ended => exact .expand (expand?_eq_nil (by rwa [starts_optional]) rfl) behind
  | present starts _ ih => exact .expand (expand?_optional starts) (ih behind)
  | group _ ih => exact runs_group_iff.mpr (ih behind)

/-- A run stops at a goal that is blocked. -/
theorem Blocked.runs (coherent : grammar.Coherent) {call : Call K C} {cause : Stop K}
    (closed : grammar.Closed call.clause) (blocked : Blocked grammar call cause) :
    Runs grammar (⟨call.rule, call.clause⟩ :: goals) call.tokens (some cause) call.tokens := by
  have foretold := blocked.foretold coherent
  -- A token that begins the clause would have been read.
  have ended : grammar.starts call.clause (nextKind call.tokens) = false := by
    refine Bool.eq_false_iff.mpr fun starts => ?_
    exact lt_irrefl _ (foretold.read starts)
  have unfolded : grammar.expand? (nextKind call.tokens) ⟨call.rule, call.clause⟩ =
      grammar.goalsIn? (nextKind call.tokens) ⟨call.rule, call.clause⟩ :=
    expand?_eq_goalsIn? (Or.inr (foretold.unread ended).2)
  -- In each case there are no goals to go on with, and the cause is what the goal is blamed for.
  cases blocked with
  | terminal => exact .blocked ended unfolded
  | @rule caller name rule tokens context found missing =>
    have cause : grammar.blame ⟨caller, .rule name⟩ = .expecting rule.first rule.name := by
      rw [blame, Goal.owner, firstOf, Clause.firstKinds, ruleFirst, found, (rule?_eq_some found).2]
    have none : ((grammar.alternatives name).find? fun clauses =>
        grammar.starts (.sequence clauses) (nextKind tokens)) = none := by
      rw [alternatives_of_some found, List.find?_eq_none, List.forall_mem_map]
      intro alternative member
      simp [(of_choose_eq_none coherent found missing alternative member).1]
    exact cause ▸ .blocked ended (unfolded.trans (by simp only [goalsIn?, none, Option.map_none]))
  | unknown missing =>
    obtain ⟨rule, found⟩ := mem_ruleNames.mp (closed _ List.mem_cons_self)
    rw [missing] at found
    cases found
  | @choice caller members tokens context missing =>
    have none : members.find? (grammar.starts · (nextKind tokens)) = none := by
      rw [List.find?_eq_none]
      intro member among
      simp [(of_pick_eq_none missing member among).1]
    exact .blocked ended (unfolded.trans (by simp only [goalsIn?, none, Option.map_none]))
  | oneOrMore idle =>
    exact .blocked ended (unfolded.trans (if_neg (by simpa using idle)))

/-- A goal at which a run stops with any goals behind it is not left out. -/
theorem not_idle_of_runs {goal : Goal K} {tokens : List (Token K)} {cause : Stop K}
    (run : Runs grammar [goal] tokens (some cause) final) :
    ¬ (grammar.starts goal.clause (nextKind tokens) = false ∧
      grammar.nullable goal.clause = true) := by
  rintro ⟨ended, nothing⟩
  cases (runs_iff_of_expand? (expand?_eq_nil ended nothing)).mp run

/-- If a run stops at a call, so does it at the caller. -/
theorem Calls.runs (coherent : grammar.Coherent) {call callee : Call K C} {cause : Stop K}
    (calls : Calls grammar call callee)
    (run : ∀ goals, Runs grammar (⟨callee.rule, callee.clause⟩ :: goals) callee.tokens
      (some cause) final) :
    Runs grammar (⟨call.rule, call.clause⟩ :: goals) call.tokens (some cause) final := by
  have taken := not_idle_of_runs (run [])
  cases calls with
  | @rule caller name rule alternative number tokens context found chosen =>
    obtain ⟨among, begins | ⟨others, nothing⟩⟩ := of_choose_eq_some coherent found chosen
    · have starts := (starts_rule coherent found).mpr ⟨alternative, among, begins⟩
      exact .expand (expand?_rule coherent found chosen starts) (runs_sequence_iff.mp (run _))
    · -- Such an alternative is left out, and the run does not stop in it.
      exact absurd ⟨others alternative among, nothing⟩ taken
  | head => exact runs_sequence_iff.mpr (run _)
  | tail matched =>
    exact runs_sequence_iff.mpr (matched.runs coherent (runs_sequence_iff.mp (run _)))
  | @choice caller members member tokens context picked =>
    obtain ⟨among, begins | ⟨others, nothing⟩⟩ := of_pick_eq_some picked
    · exact .expand (expand?_choice picked (starts_choice.mpr ⟨member, among, begins⟩)) (run _)
    · exact absurd ⟨others member among, nothing⟩ taken
  | body starts => exact .expand (expand?_zeroOrMore starts) (run _)
  | again starts matched => exact .expand (expand?_zeroOrMore starts) (matched.runs coherent (run _))
  | @loop caller body tokens context =>
    cases starts : grammar.starts body (nextKind tokens) with
    | true => exact (runs_oneOrMore_iff starts).mpr (run _)
    | false => exact absurd ⟨by rwa [starts_zeroOrMore], rfl⟩ taken
  | once ended nothing => exact absurd ⟨ended, nothing⟩ taken
  | optional starts => exact .expand (expand?_optional starts) (run _)
  | group => exact runs_group_iff.mpr (run _)

/-- A stop of a call is a stop of the run. -/
theorem Stops.runs (coherent : grammar.Coherent) {call : Call K C}
    (closed : grammar.Closed call.clause) {cause : Stop K} {rest : List (Token K)} {after : C}
    (stops : Stops grammar call cause rest after) (goals : List (Goal K)) :
    Runs grammar (⟨call.rule, call.clause⟩ :: goals) call.tokens (some cause) rest := by
  obtain ⟨depth, site, reached, blocked, rfl, -⟩ := stops
  induction reached generalizing goals with
  | here => exact blocked.runs coherent closed
  | step calls _ ih =>
    exact calls.runs coherent fun goals => ih (calls.closed coherent closed) goals blocked

/-! ### Parses are runs -/

/-- The result tells of a run that has left the tokens `rest`. -/
structure Reports (result : ParseResult K V) (tokens : List (Token K)) (cause : Option (Stop K))
    (rest : List (Token K)) : Prop where
  errors : result.errors = (cause.map (·.error tokens rest)).toList
  endingPosition : result.endingPosition = tokens.length - rest.length
  isEnded : result.isEnded = (cause.isNone && rest.isEmpty)

/-- A parse from a rule of the grammar is the run with the rule as its only goal. -/
theorem exists_runs (coherent : grammar.Coherent) {start : String}
    (defined : start ∈ grammar.ruleNames) (tokens : List (Token K)) (context : C) :
    ∃ cause rest, Runs grammar [⟨start, .rule start⟩] tokens cause rest ∧
      Reports (grammar.parseTokens tokens start context).1 tokens cause rest := by
  have closed : grammar.Closed (.rule start) := by simpa [Closed, Clause.ruleNames] using defined
  rcases parseTokens_answered coherent defined tokens context with
    ⟨root, rest, after, matched, eq⟩ | ⟨kinds, rule, rest, after, stops, eq⟩
  · refine ⟨none, rest, matched.runs coherent (.done rest), ?_⟩
    rw [eq]
    exact ⟨rfl, rfl, rfl⟩
  · refine ⟨some (.expecting kinds rule), rest, stops.runs coherent closed [], ?_⟩
    rw [eq]
    exact ⟨rfl, rfl, rfl⟩

/-! ### Runs side by side -/

variable {V' C' : Type} {grammar' : Grammar K V' C'} {related : Goal K → Goal K → Prop}

/-- A step does the same with related goals: they have one lookahead, they are read as one kind, and
the goals in them are related again, one by one. -/
structure Lockstep (grammar : Grammar K V C) (grammar' : Grammar K V' C')
    (related : Goal K → Goal K → Prop) : Prop where
  starts {goal goal' : Goal K} : related goal goal' →
    ∀ next, grammar.starts goal.clause next = grammar'.starts goal'.clause next
  nullable {goal goal' : Goal K} : related goal goal' →
    grammar.nullable goal.clause = grammar'.nullable goal'.clause
  terminal {goal goal' : Goal K} {kind : K} : related goal goal' →
    goal.clause = .terminal kind → goal'.clause = .terminal kind
  goalsIn? {goal goal' : Goal K} {next : Option K} : related goal goal' →
    grammar.starts goal.clause next = true ∨ grammar.nullable goal.clause = false →
      Option.Rel (List.Forall₂ related) (grammar.goalsIn? next goal) (grammar'.goalsIn? next goal')

theorem Lockstep.expand? (lockstep : Lockstep grammar grammar' related) {goal goal' : Goal K}
    (alike : related goal goal') (next : Option K) :
    Option.Rel (List.Forall₂ related) (grammar.expand? next goal)
      (grammar'.expand? next goal') := by
  unfold Grammar.expand?
  rw [← lockstep.starts alike, ← lockstep.nullable alike]
  split
  next => exact .some .nil
  next needed =>
    refine lockstep.goalsIn? alike ?_
    cases starts : grammar.starts goal.clause next <;> simp_all

/-- Runs from related goals read the same tokens, and if they stop they do so at related goals. -/
theorem Runs.lockstep (lockstep : Lockstep grammar grammar' related) {goals goals' : List (Goal K)}
    {tokens rest : List (Token K)} {cause : Option (Stop K)}
    (run : Runs grammar goals tokens cause rest) (alike : List.Forall₂ related goals goals') :
    ∃ cause', Runs grammar' goals' tokens cause' rest ∧
      Option.Rel (fun stop stop' => ∃ goal goal', related goal goal' ∧
        stop = grammar.blame goal ∧ stop' = grammar'.blame goal') cause cause' := by
  induction run generalizing goals' with
  | done tokens =>
    cases alike
    exact ⟨none, .done tokens, .none⟩
  | read same _ ih =>
    obtain ⟨⟨rule', clause'⟩, goals', first, others, rfl⟩ := List.forall₂_cons_left_iff.mp alike
    obtain rfl : clause' = _ := lockstep.terminal first rfl
    obtain ⟨cause', run', causes⟩ := ih others
    exact ⟨cause', .read same run', causes⟩
  | @expand goal inner goals tokens cause rest known _ ih =>
    obtain ⟨goal', goals', first, others, rfl⟩ := List.forall₂_cons_left_iff.mp alike
    have expanded := lockstep.expand? first (nextKind tokens)
    rw [known] at expanded
    generalize known' : grammar'.expand? (nextKind tokens) goal' = answer at expanded
    cases expanded with
    | some inside =>
      obtain ⟨cause', run', causes⟩ := ih (List.rel_append inside others)
      exact ⟨cause', .expand known' run', causes⟩
  | @blocked goal goals tokens ended missing =>
    obtain ⟨goal', goals', first, others, rfl⟩ := List.forall₂_cons_left_iff.mp alike
    have expanded := lockstep.expand? first (nextKind tokens)
    rw [missing] at expanded
    generalize known' : grammar'.expand? (nextKind tokens) goal' = answer at expanded
    cases expanded
    exact ⟨_, .blocked (by rw [← lockstep.starts first, ended]) known',
      .some ⟨goal, goal', first, rfl, rfl⟩⟩

/-- Parses by grammars that go in lockstep from the start rule leave the same tokens, and if they
stop they do so at related goals. -/
theorem Lockstep.parseTokens (lockstep : Lockstep grammar grammar' related)
    (coherent : grammar.Coherent) (coherent' : grammar'.Coherent) {start : String}
    (defined : start ∈ grammar.ruleNames) (defined' : start ∈ grammar'.ruleNames)
    (itself : related ⟨start, .rule start⟩ ⟨start, .rule start⟩) (tokens : List (Token K))
    (context : C) (context' : C') :
    ∃ cause cause' rest, Reports (grammar.parseTokens tokens start context).1 tokens cause rest ∧
      Reports (grammar'.parseTokens tokens start context').1 tokens cause' rest ∧
      Option.Rel (fun stop stop' => ∃ goal goal', related goal goal' ∧
        stop = grammar.blame goal ∧ stop' = grammar'.blame goal') cause cause' := by
  obtain ⟨cause, rest, run, reports⟩ := exists_runs coherent defined tokens context
  obtain ⟨cause', rest', run', reports'⟩ := exists_runs coherent' defined' tokens context'
  obtain ⟨other, beside, causes⟩ := run.lockstep lockstep (.cons itself .nil)
  obtain ⟨rfl, rfl⟩ := beside.unique run'
  exact ⟨cause, other, rest, reports, reports', causes⟩

end Grammar

end Lookahead
