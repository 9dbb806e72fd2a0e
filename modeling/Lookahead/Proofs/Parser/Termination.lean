import Lookahead.Proofs.Grammar.Occurrence
import Lookahead.Proofs.Parser.Determinacy
import Lookahead.Proofs.Parser.Prediction
import Mathlib.Order.WellFounded

/-!
# Every parse ends

The build refuses left recursion, and that is enough for the parser to come to an end. A call is
weighed by the tokens in front of it and by the rules that it can begin with: as many times the
number of all rules as there are tokens, and the rank of the highest of those rules. A rule that
is entered makes the weight smaller, and nothing makes it larger, since a match that read nothing
was a match of a nullable clause, and what is behind such a clause was counted already. So there
is no way to go on for ever, and the bound of the matcher is never reached.

Main statements: `Grammar.Calls.wellFounded`, `Grammar.run_finished` and
`Grammar.parseTokens_terminates`.
-/

namespace Lookahead

namespace Clause

variable {K : Type}

theorem leading_subset_of_mem {empty : String → Bool} {member : Clause K}
    {members : List (Clause K)} (among : member ∈ members) :
    leading empty member ⊆ leading empty (.choice members) := by
  rw [leading]
  induction members with
  | nil => cases among
  | cons clause rest ih =>
    rw [leadingOfChoice]
    rcases List.mem_cons.mp among with rfl | later
    · exact List.subset_append_left _ _
    · exact List.Subset.trans (ih later) (List.subset_append_right _ _)

mutual
/-- The number of constructs in a clause. To go round a loop at least once counts for one more
than to go round it any number of times. -/
def size : Clause K → Nat
  | .terminal _ => 1
  | .rule _ => 1
  | .sequence items => sizeAll items + 1
  | .choice members => sizeAll members + 1
  | .zeroOrMore body => size body + 1
  | .oneOrMore body => size body + 2
  | .optional body => size body + 1
  | .group body _ => size body + 1

/-- The number of constructs in the clauses of a list. -/
def sizeAll : List (Clause K) → Nat
  | [] => 0
  | clause :: rest => size clause + sizeAll rest
end

theorem size_pos (clause : Clause K) : 0 < clause.size := by
  cases clause <;> simp [size]

theorem size_le_of_mem {clause : Clause K} {clauses : List (Clause K)} (member : clause ∈ clauses) :
    clause.size ≤ sizeAll clauses := by
  induction clauses with
  | nil => cases member
  | cons first rest ih =>
    rw [sizeAll]
    rcases List.mem_cons.mp member with rfl | later
    · omega
    · have := ih later
      omega

end Clause

namespace Grammar

variable {K V C : Type} [TokenKind K] {grammar : Grammar K V C} {rank : String → Nat}

/-! ### The weight of a call -/

/-- The highest rank of the rules that a match of the clause can begin with. -/
def height (grammar : Grammar K V C) (rank : String → Nat) (clause : Clause K) : Nat :=
  ((clause.leading grammar.ruleMayBeEmpty).map rank).foldr max 0

/-- The weight of a call bounds how many rules it can enter inside one another. -/
def weight (grammar : Grammar K V C) (rank : String → Nat) (call : Call K C) : Nat :=
  call.tokens.length * grammar.rules.length + grammar.height rank call.clause

theorem height_le_iff {clause : Clause K} {limit : Nat} :
    grammar.height rank clause ≤ limit ↔
      ∀ name ∈ clause.leading grammar.ruleMayBeEmpty, rank name ≤ limit := by
  rw [height]
  induction clause.leading grammar.ruleMayBeEmpty with
  | nil => simp
  | cons name rest ih => simp only [List.map_cons, List.foldr_cons, max_le_iff, ih,
      List.forall_mem_cons]

theorem height_mono {clause other : Clause K}
    (subset : clause.leading grammar.ruleMayBeEmpty ⊆ other.leading grammar.ruleMayBeEmpty) :
    grammar.height rank clause ≤ grammar.height rank other := by
  have bounded := height_le_iff.mp (le_refl (grammar.height rank other))
  exact height_le_iff.mpr fun name leading => bounded name (subset leading)

theorem height_le (ranked : grammar.Ranked rank) (clause : Clause K) :
    grammar.height rank clause ≤ grammar.rules.length :=
  height_le_iff.mpr fun name _ => ranked.bounded name

theorem height_rule (name : String) : grammar.height rank (.rule name) = rank name := by
  simp [height, Clause.leading]

/-- What an alternative begins with is lower than its rule. -/
theorem height_lt (ranked : grammar.Ranked rank) {name : String} {clauses : List (Clause K)}
    (member : clauses ∈ grammar.alternatives name) (defined : name ∈ grammar.ruleNames) :
    grammar.height rank (.sequence clauses) < rank name := by
  have positive := ranked.positive defined
  have low : grammar.height rank (.sequence clauses) ≤ rank name - 1 := by
    refine height_le_iff.mpr fun inner leading => ?_
    have lower := ranked.descends member leading
    omega
  omega

/-- The bound of the matcher covers the weight of every call. -/
theorem weight_le_nestingBound (ranked : grammar.Ranked rank) (call : Call K C) :
    grammar.weight rank call ≤ grammar.nestingBound call.tokens := by
  have low := height_le ranked call.clause
  rw [weight, nestingBound, Nat.add_mul, Nat.one_mul]
  omega

/-- A token that was read outweighs all rules. -/
theorem weight_le_of_length_lt (ranked : grammar.Ranked rank) {call callee : Call K C}
    (shorter : callee.tokens.length < call.tokens.length) :
    grammar.weight rank callee ≤ grammar.weight rank call := by
  have low := height_le ranked callee.clause
  have fewer : (callee.tokens.length + 1) * grammar.rules.length ≤
      call.tokens.length * grammar.rules.length := Nat.mul_le_mul_right _ shorter
  rw [Nat.add_mul, Nat.one_mul] at fewer
  rw [weight, weight]
  omega

theorem weight_le_of_leading_subset {caller other : String} {clause inner : Clause K}
    {tokens : List (Token K)} {context after : C}
    (subset : inner.leading grammar.ruleMayBeEmpty ⊆ clause.leading grammar.ruleMayBeEmpty) :
    grammar.weight rank ⟨other, inner, tokens, after⟩ ≤
      grammar.weight rank ⟨caller, clause, tokens, context⟩ :=
  Nat.add_le_add_left (height_mono subset) _

/-- A call weighs at least as much as the calls that it makes, and more if it enters a rule. -/
theorem Calls.weight_le (coherent : grammar.Coherent) (ranked : grammar.Ranked rank)
    {call callee : Call K C} (calls : Calls grammar call callee) :
    grammar.weight rank callee + call.entered ≤ grammar.weight rank call := by
  cases calls with
  | @rule caller name rule alternative number tokens context found chosen =>
    -- The rule has a higher rank than all that its alternative can begin with.
    have member := mem_alternatives_of_choose found chosen
    have lower := height_lt ranked member (mem_ruleNames.mpr ⟨rule, found⟩)
    simp only [weight, height_rule, Call.entered]
    omega
  | head =>
    refine weight_le_of_leading_subset ?_
    rw [Clause.leading, Clause.leadingOfSequence]
    exact List.subset_append_left _ _
  | @tail caller clause others tokens middle context between tree matched =>
    have foretold := matched.foretold coherent
    cases here : grammar.starts clause (nextKind tokens) with
    | true => exact weight_le_of_length_lt ranked (foretold.read here)
    | false =>
      -- Nothing was read, so what the other items begin with was counted for the sequence.
      obtain ⟨rfl, nothing⟩ := foretold.unread here
      refine weight_le_of_leading_subset ?_
      rw [nullable] at nothing
      rw [Clause.leading, Clause.leading, Clause.leadingOfSequence, if_pos nothing]
      exact List.subset_append_right _ _
  | choice picked =>
    exact weight_le_of_leading_subset (Clause.leading_subset_of_mem (mem_of_pick picked))
  | again starts matched _ =>
    exact weight_le_of_length_lt ranked ((matched.foretold coherent).read starts)
  | body | loop | once | optional | group =>
    exact weight_le_of_leading_subset (List.Subset.refl _)

/-- A call that is reached weighs less by the number of the rules entered on the way. -/
theorem Reaches.weight_le (coherent : grammar.Coherent) (ranked : grammar.Ranked rank)
    {call site : Call K C} {depth : Nat} (reached : Reaches grammar call depth site) :
    grammar.weight rank site + depth ≤ grammar.weight rank call := by
  induction reached with
  | here => exact le_rfl
  | step calls _ ih =>
    have lighter := calls.weight_le coherent ranked
    omega

/-! ### Calls come to an end -/

/-- A call that enters no rule makes calls in front of fewer tokens or calls for less. -/
theorem Calls.shrinks {call callee : Call K C} (calls : Calls grammar call callee)
    (level : call.entered = 0) :
    callee.tokens.length < call.tokens.length ∨ callee.clause.size < call.clause.size := by
  cases calls with
  | rule => cases level
  | head =>
    right
    simp only [Clause.size, Clause.sizeAll]
    omega
  | @tail _ clause =>
    right
    have positive := clause.size_pos
    simp only [Clause.size, Clause.sizeAll]
    omega
  | choice picked =>
    right
    have smaller := Clause.size_le_of_mem (mem_of_pick picked)
    simp only [Clause.size]
    omega
  | again starts matched progress =>
    left
    exact lt_of_le_of_ne matched.suffix.length_le progress
  | body | loop | once | optional | group =>
    right
    simp [Clause.size]

/-- What becomes smaller from call to call: the weight, or else the number of tokens, or else what
is asked for. -/
def measure (grammar : Grammar K V C) (rank : String → Nat) (call : Call K C) : Nat × Nat × Nat :=
  (grammar.weight rank call, call.tokens.length, call.clause.size)

theorem Calls.measure_lt (coherent : grammar.Coherent) (ranked : grammar.Ranked rank)
    {call callee : Call K C} (calls : Calls grammar call callee) :
    Prod.Lex (· < ·) (Prod.Lex (· < ·) (· < ·)) (grammar.measure rank callee)
      (grammar.measure rank call) := by
  have lighter := calls.weight_le coherent ranked
  have fewer := calls.suffix.length_le
  have shrinks := calls.shrinks
  simp only [Prod.lex_def, measure]
  omega

/-- No chain of calls goes on for ever. -/
theorem Calls.wellFounded (coherent : grammar.Coherent) :
    WellFounded fun callee call : Call K C => Calls grammar call callee := by
  obtain ⟨rank, ranked⟩ := coherent.ranked
  have lexicographic : WellFounded
      (Prod.Lex (· < ·) (Prod.Lex (· < ·) (· < ·)) : Nat × Nat × Nat → Nat × Nat × Nat → Prop) :=
    WellFoundedRelation.wf
  exact Subrelation.wf (fun calls => calls.measure_lt coherent ranked)
    (InvImage.wf (grammar.measure rank) lexicographic)

/-! ### The bound is not reached -/

/-- No call is cut off before so many rules were entered as its weight tells. -/
theorem Cut.lt_weight (ranked : grammar.Ranked rank) {site : Call K C} {cause : Stop K}
    (cut : Cut grammar site cause) : 0 < grammar.weight rank site := by
  cases cut with
  | rule found =>
    have positive := ranked.positive (mem_ruleNames.mpr ⟨_, found⟩)
    simp only [weight, height_rule]
    omega

/-- The matcher answers every call without reaching a bound that covers the tokens: with a match of
the relation or with a stop of it. -/
theorem run_answered (coherent : grammar.Coherent) (call : Call K C) {bound : Nat}
    (enough : grammar.nestingBound call.tokens ≤ bound) :
    (∃ tree rest after,
      Matches grammar call.rule call.clause call.tokens call.context tree rest after ∧
        grammar.run bound call = .matched tree rest after) ∨
    ∃ cause rest after, Stops grammar call cause rest after ∧
      grammar.run bound call = .stopped cause rest after := by
  have explained := run_explained grammar bound call
  cases answer : grammar.run bound call with
  | matched tree rest after =>
    rw [answer] at explained
    exact Or.inl ⟨tree, rest, after, explained, rfl⟩
  | stopped cause rest after =>
    rw [answer] at explained
    rcases explained with stops | ⟨site, reached, cut, -⟩
    · exact Or.inr ⟨cause, rest, after, stops, rfl⟩
    · -- More rules would have been entered than the weight of the call allows.
      obtain ⟨rank, ranked⟩ := coherent.ranked
      have heavy := cut.lt_weight ranked
      have light := reached.weight_le coherent ranked
      have covered := weight_le_nestingBound ranked call
      omega

theorem run_finished (coherent : grammar.Coherent) (call : Call K C) {bound : Nat}
    (enough : grammar.nestingBound call.tokens ≤ bound) :
    (grammar.run bound call).Finished := by
  rcases run_answered coherent call enough with
    ⟨tree, rest, after, -, answer⟩ | ⟨cause, rest, after, stops, answer⟩
  · rw [answer]
    intro rule other context unbounded
    cases unbounded
  · rw [answer]
    rintro rule other context ⟨⟩
    obtain ⟨depth, site, -, blocked, -⟩ := stops
    cases blocked

/-! ### Names -/

/-- Every rule that the clause mentions is a rule of the grammar. -/
def Closed (grammar : Grammar K V C) (clause : Clause K) : Prop :=
  ∀ name ∈ clause.ruleNames, name ∈ grammar.ruleNames

theorem Closed.mono {clause inner : Clause K} (closed : grammar.Closed clause)
    (subset : inner.ruleNames ⊆ clause.ruleNames) : grammar.Closed inner :=
  fun _ member => closed _ (subset member)

/-- The rules mentioned in a call are those of its caller, or they stand in an alternative. -/
theorem Calls.closed (coherent : grammar.Coherent) {call callee : Call K C}
    (calls : Calls grammar call callee) (closed : grammar.Closed call.clause) :
    grammar.Closed callee.clause := by
  cases calls with
  | rule found chosen =>
    exact fun inner member => coherent.defined (mem_alternatives_of_choose found chosen) member
  | head =>
    refine closed.mono ?_
    simp only [Clause.ruleNames, Clause.ruleNamesAll]
    exact List.subset_append_left _ _
  | tail =>
    refine closed.mono ?_
    simp only [Clause.ruleNames, Clause.ruleNamesAll]
    exact List.subset_append_right _ _
  | choice picked =>
    refine closed.mono fun name member => ?_
    exact Clause.mem_ruleNamesAll.mpr ⟨_, mem_of_pick picked, member⟩
  | body | again | loop | once | optional | group => exact closed

/-- Where all rules are known, a stop tells what was expected. -/
theorem Stops.expecting (coherent : grammar.Coherent) {call : Call K C}
    (closed : grammar.Closed call.clause) {cause : Stop K} {rest : List (Token K)} {after : C}
    (stops : Stops grammar call cause rest after) : ∃ kinds rule, cause = .expecting kinds rule := by
  obtain ⟨depth, site, reached, blocked, -⟩ := stops
  induction reached with
  | here =>
    cases blocked with
    | unknown missing =>
      -- The name stands in the call, so there is a rule of that name.
      obtain ⟨rule, found⟩ := mem_ruleNames.mp (closed _ List.mem_cons_self)
      rw [missing] at found
      cases found
    | terminal | rule | choice | oneOrMore => exact ⟨_, _, rfl⟩
  | step calls _ ih => exact ih (calls.closed coherent closed) blocked

/-! ### Parsing -/

/-- Parsing from a rule of the grammar gives a match of the rule, or it tells which tokens were
expected where the rule stops. -/
theorem parseTokens_answered (coherent : grammar.Coherent) {start : String}
    (defined : start ∈ grammar.ruleNames) (tokens : List (Token K)) (context : C) :
    (∃ root rest after, Matches grammar start (.rule start) tokens context root rest after ∧
      grammar.parseTokens tokens start context =
        (⟨some root, [], tokens.length - rest.length, rest.isEmpty⟩, after)) ∨
    ∃ kinds rule rest after,
      Stops grammar ⟨start, .rule start, tokens, context⟩ (.expecting kinds rule) rest after ∧
        grammar.parseTokens tokens start context =
          (.failed ((Stop.expecting kinds rule).error tokens rest)
            (tokens.length - rest.length), after) := by
  obtain ⟨rule, found⟩ := mem_ruleNames.mp defined
  have closed : grammar.Closed (.rule start) := by
    simpa [Closed, Clause.ruleNames] using defined
  rw [parseTokens_of_some found]
  rcases run_answered coherent ⟨start, .rule start, tokens, context⟩ le_rfl with
    ⟨root, rest, after, matched, answer⟩ | ⟨cause, rest, after, stops, answer⟩
  · rw [answer]
    exact Or.inl ⟨root, rest, after, matched, rfl⟩
  · obtain ⟨kinds, name, rfl⟩ := stops.expecting coherent closed
    rw [answer]
    exact Or.inr ⟨kinds, name, rest, after, stops, rfl⟩

/-- A match of the start rule is what comes of parsing. -/
theorem Matches.parseTokens_eq (coherent : grammar.Coherent) {caller start : String}
    {tokens rest : List (Token K)} {context after : C} {root : Tree K V}
    (matched : Matches grammar caller (.rule start) tokens context root rest after) :
    grammar.parseTokens tokens start context =
      (⟨some root, [], tokens.length - rest.length, rest.isEmpty⟩, after) := by
  cases matched with
  | rule found chosen children =>
    have asked : Matches grammar start _ _ _ _ _ _ := .rule found chosen children
    have answer := asked.matchClause_eq
      (run_finished coherent ⟨start, .rule start, tokens, context⟩ le_rfl)
    rw [parseTokens_of_some found, run, answer]

/-- A stop of the start rule is what comes of parsing. -/
theorem Stops.parseTokens_eq (coherent : grammar.Coherent) {start : String}
    (defined : start ∈ grammar.ruleNames) {tokens rest : List (Token K)} {context after : C}
    {cause : Stop K}
    (stops : Stops grammar ⟨start, .rule start, tokens, context⟩ cause rest after) :
    grammar.parseTokens tokens start context =
      (.failed (cause.error tokens rest) (tokens.length - rest.length), after) := by
  obtain ⟨rule, found⟩ := mem_ruleNames.mp defined
  have answer := stops.run_eq
    (run_finished coherent ⟨start, .rule start, tokens, context⟩ le_rfl)
  rw [parseTokens_of_some found, answer]

/-- The error of what was expected tells of a token or of the end of the tokens. -/
theorem error_expecting (kinds : KindSet K) (rule name : String) (tokens rest : List (Token K)) :
    (Stop.expecting kinds rule).error tokens rest ≠ .unknownRule name ∧
      (Stop.expecting kinds rule).error tokens rest ≠ .unboundedNesting name := by
  cases rest <;> simp [Stop.error]

/-- Parsing from a rule of a resolved grammar comes to an end: there is no infinite descent, and
the bound on the nesting is not felt. What comes of it is a match or tells which tokens were
expected, never that a rule is unknown or that rules have no end. -/
theorem parseTokens_terminates (resolved : grammar.Resolved) {start : String}
    (defined : start ∈ grammar.ruleNames) (tokens : List (Token K)) (context : C) :
    let call : Call K C := ⟨start, .rule start, tokens, context⟩
    let result := (grammar.parseTokens tokens start context).1
    (¬ ∃ calls : Nat → Call K C, calls 0 = call ∧ ∀ n, Calls grammar (calls n) (calls (n + 1))) ∧
    (∀ bound, grammar.nestingBound tokens ≤ bound →
      grammar.run bound call = grammar.run (grammar.nestingBound tokens) call) ∧
    ((∃ root rest after, Matches grammar start (.rule start) tokens context root rest after ∧
        result = ⟨some root, [], tokens.length - rest.length, rest.isEmpty⟩) ∨
      ∃ kinds rule rest after, Stops grammar call (.expecting kinds rule) rest after ∧
        result = .failed ((Stop.expecting kinds rule).error tokens rest)
          (tokens.length - rest.length)) ∧
    ∀ name, .unknownRule name ∉ result.errors ∧ .unboundedNesting name ∉ result.errors := by
  have coherent := resolved.coherent
  intro call result
  refine ⟨?_, fun bound enough => ?_, ?_⟩
  · rintro ⟨calls, -, endless⟩
    exact (wellFounded_iff_isEmpty_descending_chain.mp (Calls.wellFounded coherent)).false
      ⟨calls, endless⟩
  · exact run_congr (run_finished coherent call enough) (run_finished coherent call le_rfl)
  · rcases parseTokens_answered coherent defined tokens context with
      ⟨root, rest, after, matched, eq⟩ | ⟨kinds, rule, rest, after, stops, eq⟩
    · have same : result = _ := congrArg Prod.fst eq
      rw [same]
      exact ⟨Or.inl ⟨root, rest, after, matched, rfl⟩, by simp⟩
    · have same : result = _ := congrArg Prod.fst eq
      rw [same]
      refine ⟨Or.inr ⟨kinds, rule, rest, after, stops, rfl⟩, fun name => ?_⟩
      have plain := error_expecting kinds rule name tokens rest
      simpa [ParseResult.failed, eq_comm] using plain

/-- Parsing a list that is not closed tells what was expected behind it. -/
theorem parseTokens_terminates_list :
    Sample.grammar.Resolved ∧ "list" ∈ Sample.grammar.ruleNames ∧
      ∀ name, SyntaxError.unboundedNesting name ∉
        (Sample.grammar.parseTokens (Sample.tokens [.opening, .word]) "list" ()).1.errors :=
  have defined : "list" ∈ Sample.grammar.ruleNames := by decide
  ⟨Sample.resolved, defined, fun name =>
    ((parseTokens_terminates Sample.resolved defined (Sample.tokens [.opening, .word]) ()).2.2.2
      name).2⟩

end Grammar

end Lookahead
