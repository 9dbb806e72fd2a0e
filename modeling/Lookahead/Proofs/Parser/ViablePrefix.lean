import Lookahead.Proofs.Grammar.SententialForm
import Lookahead.Proofs.Parser.Soundness
import Lookahead.Proofs.Parser.Termination

/-!
# Failed parses stop behind a viable prefix

The matcher keeps what is still to be matched on its stack of calls. Each call made on the way to a
blocked one reads a word and leaves a form behind the clause that it asks for, so the calls
together give a leftmost derivation: from the start rule comes a form that begins with all that was
read and goes on with the clause of the blocked call. Whatever a blocked call expects can begin
that clause.

Main statement: `Grammar.parseTokens_viable`.
-/

namespace Lookahead

namespace Grammar

open Form

variable {K V C : Type} [TokenKind K] {grammar : Grammar K V C}

/-- The form that stands where the matcher is asked for a clause. The items of a sequence stand
for themselves. A loop may be asked for where at least one round has to be made. -/
inductive StandsFor : Form K → Clause K → Prop
  | clause (clause) : StandsFor [clause] clause
  | items (items) : StandsFor items (.sequence items)
  | rounds (body) : StandsFor [.oneOrMore body] (.zeroOrMore body)

omit [TokenKind K] in
theorem StandsFor.items_yield {alternatives : String → List (List (Clause K))} {asked : Form K}
    {listed : List (Clause K)} (stands : StandsFor asked (.sequence listed)) :
    Yields alternatives asked listed := by
  cases stands with
  | clause => exact .of_expands (.sequence listed) .refl
  | items => exact .refl

omit [TokenKind K] in
theorem StandsFor.round_yields {alternatives : String → List (List (Clause K))} {asked : Form K}
    {body : Clause K} (stands : StandsFor asked (.zeroOrMore body)) :
    Yields alternatives asked [body, .zeroOrMore body] := by
  cases stands with
  | clause => exact .of_expands (.more body) .refl
  | rounds => exact .of_expands (.oneOrMore body) .refl

omit [TokenKind K] in
/-- A clause that is not taken apart stands for itself. -/
theorem StandsFor.eq_singleton {asked : Form K} {clause : Clause K}
    (stands : StandsFor asked clause) (single : ∀ listed, clause ≠ .sequence listed)
    (round : ∀ body, clause ≠ .zeroOrMore body) : asked = [clause] := by
  cases stands with
  | clause => rfl
  | items => exact absurd rfl (single _)
  | rounds => exact absurd rfl (round _)

/-- From the first form comes a form that begins with the tokens in front of `rest` and then asks
for the clause. -/
def Arrives (grammar : Grammar K V C) (asked : Form K) (tokens : List (Token K))
    (clause : Clause K) (rest : List (Token K)) : Prop :=
  ∃ (read : List (Token K)) (inner behind : Form K), tokens = read ++ rest ∧
    StandsFor inner clause ∧
    Yields grammar.alternatives asked (ofWord (read.map (·.kind)) ++ (inner ++ behind))

theorem arrives_here {asked inner : Form K} {clause : Clause K} (stands : StandsFor inner clause)
    (behind : Form K) (yields : Yields grammar.alternatives asked (inner ++ behind))
    (tokens : List (Token K)) : Arrives grammar asked tokens clause tokens :=
  ⟨[], inner, behind, rfl, stands, yields⟩

/-- A match of the first clause of a form is read, and then comes the rest of the form. -/
theorem Matches.yields {caller : String} {clause : Clause K} {tokens rest : List (Token K)}
    {context after : C} {tree : Tree K V}
    (matched : Matches grammar caller clause tokens context tree rest after) {asked behind : Form K}
    (yields : Yields grammar.alternatives asked (clause :: behind)) :
    Yields grammar.alternatives asked (ofWord (tree.leaves.map (·.kind)) ++ behind) :=
  yields.trans ((yields_of_derives matched.conforms.derives).append behind)

/-- What a call asks for comes from the form that stands for the call. -/
theorem Calls.arrives {call callee : Call K C} (calls : Calls grammar call callee)
    {asked : Form K} (stands : StandsFor asked call.clause) :
    Arrives grammar asked call.tokens callee.clause callee.tokens := by
  cases calls with
  | rule found chosen =>
    obtain rfl := stands.eq_singleton (by simp) (by simp)
    refine arrives_here (.items _) [] ?_ _
    rw [List.append_nil]
    exact .of_expands (.rule (mem_alternatives_of_choose found chosen)) .refl
  | head => exact arrives_here (.clause _) _ stands.items_yield _
  | @tail _ _ others _ _ _ _ tree matched =>
    have read := matched.yields stands.items_yield
    rw [← List.append_nil others] at read
    exact ⟨tree.leaves, others, [], matched.leaves_append.symm, .items others, read⟩
  | choice picked =>
    obtain rfl := stands.eq_singleton (by simp) (by simp)
    exact arrives_here (.clause _) []
      (.of_expands (.choice (mem_of_pick picked)) .refl) _
  | body => exact arrives_here (.clause _) _ stands.round_yields _
  | @again _ body _ _ _ _ item _ matched =>
    have read := matched.yields stands.round_yields
    exact ⟨item.leaves, [.zeroOrMore body], [], matched.leaves_append.symm, .clause _, read⟩
  | loop =>
    obtain rfl := stands.eq_singleton (by simp) (by simp)
    exact arrives_here (.rounds _) [] .refl _
  | once =>
    obtain rfl := stands.eq_singleton (by simp) (by simp)
    exact arrives_here (.clause _) _ (.of_expands (.oneOrMore _) .refl) _
  | optional =>
    obtain rfl := stands.eq_singleton (by simp) (by simp)
    exact arrives_here (.clause _) [] (.of_expands (.present _) .refl) _
  | group =>
    obtain rfl := stands.eq_singleton (by simp) (by simp)
    exact arrives_here (.clause _) [] (.of_expands (.group _ _) .refl) _

/-- The calls on the stack are the steps of one leftmost derivation. -/
theorem Reaches.arrives {call site : Call K C} {depth : Nat}
    (reached : Reaches grammar call depth site) {asked : Form K}
    (stands : StandsFor asked call.clause) :
    Arrives grammar asked call.tokens site.clause site.tokens := by
  induction reached generalizing asked with
  | here call => exact arrives_here stands [] (by rw [List.append_nil]) _
  | step calls _ ih =>
    obtain ⟨read, inner, behind, split, here, first⟩ := calls.arrives stands
    obtain ⟨further, innermost, between, split', there, later⟩ := ih here
    refine ⟨read ++ further, innermost, between ++ behind, ?_, there, ?_⟩
    · rw [split, split', List.append_assoc]
    · have whole := first.trans_behind (later.append behind)
      simpa only [List.map_append, ofWord_append, List.append_assoc] using whole

/-! ### What is expected -/

theorem Resolved.derives_nil_of_ruleMayBeEmpty (resolved : grammar.Resolved) (name : String)
    (nothing : grammar.ruleMayBeEmpty name = true) :
    Clause.Derives grammar.alternatives (.rule name) [] :=
  (resolved.nullable_iff_derives_nil (.rule name)).mp nothing

/-- A kind in the first set of a clause can be put in front by a derivation. -/
theorem Resolved.fronts_of_mem_firstOf (resolved : grammar.Resolved) {clause : Clause K}
    {kind : K} (member : kind ∈ grammar.firstOf clause) :
    Fronts grammar.alternatives clause (.terminal kind) :=
  fronts_terminal resolved.derives_nil_of_ruleMayBeEmpty
    (resolved.coherent.mem_firstOf.mp member)

theorem mem_firstOf_rule {name : String} {rule : Rule K V C}
    (found : grammar.rule? name = some rule) {kind : K} :
    kind ∈ grammar.firstOf (.rule name) ↔ kind ∈ rule.first := by
  simp [firstOf, Clause.firstKinds, ruleFirst, found]

/-- Every kind that a blocked call expects can begin what the call asks for. -/
theorem Blocked.exists_yields (resolved : grammar.Resolved) {call : Call K C} {kinds : KindSet K}
    {rule : String} (blocked : Blocked grammar call (.expecting kinds rule)) {asked : Form K}
    (stands : StandsFor asked call.clause) {kind : K} (member : kind ∈ kinds) :
    ∃ rest, Yields grammar.alternatives asked (.terminal kind :: rest) := by
  cases blocked with
  | terminal =>
    obtain rfl := stands.eq_singleton (by simp) (by simp)
    obtain rfl := KindSet.mem_singleton.mp member
    exact ⟨[], .refl⟩
  | rule found =>
    obtain rfl := stands.eq_singleton (by simp) (by simp)
    exact resolved.fronts_of_mem_firstOf ((mem_firstOf_rule found).mpr member)
  | choice =>
    obtain rfl := stands.eq_singleton (by simp) (by simp)
    exact resolved.fronts_of_mem_firstOf member
  | oneOrMore =>
    obtain rfl := stands.eq_singleton (by simp) (by simp)
    -- The first of the rounds that have to be made begins with the kind.
    obtain ⟨rest, round⟩ := resolved.fronts_of_mem_firstOf member
    exact ⟨_, .of_expands (.oneOrMore _) (round.append _)⟩

/-- What was read by a call that stops is the front of a form that is derived from the clause, and
so is what was read with any kind that is expected behind it. -/
theorem Stops.viable (resolved : grammar.Resolved) {call : Call K C} {kinds : KindSet K}
    {rule : String} {rest : List (Token K)} {after : C}
    (stops : Stops grammar call (.expecting kinds rule) rest after) :
    ∃ read : List (Token K), call.tokens = read ++ rest ∧
      (∃ form, Yields grammar.alternatives [call.clause]
        (ofWord (read.map (·.kind)) ++ form)) ∧
      ∀ kind ∈ kinds, ∃ form, Yields grammar.alternatives [call.clause]
        (ofWord (read.map (·.kind) ++ [kind]) ++ form) := by
  obtain ⟨depth, site, reached, blocked, rfl, -⟩ := stops
  obtain ⟨read, inner, behind, split, stands, yields⟩ := reached.arrives (.clause call.clause)
  refine ⟨read, split, ⟨inner ++ behind, yields⟩, fun kind member => ?_⟩
  obtain ⟨rest, begins⟩ := blocked.exists_yields resolved stands member
  have whole := yields.trans_behind (begins.append behind)
  refine ⟨rest ++ behind, ?_⟩
  simpa using whole

/-! ### Failed parses -/

theorem expected_error (kinds : KindSet K) (rule : String) (tokens rest : List (Token K)) :
    ((Stop.expecting kinds rule).error tokens rest).expected = kinds.toList := by
  cases rest <;> rfl

/-- Where a parse fails, the kinds of the tokens read so far begin a form that has a leftmost
derivation from the start rule, and so they do with any kind behind them that the error says was
expected. -/
theorem parseTokens_viable (resolved : grammar.Resolved) {start : String}
    (defined : start ∈ grammar.ruleNames) (tokens : List (Token K)) (context : C)
    (failure : (grammar.parseTokens tokens start context).1.isError = true) :
    let result := (grammar.parseTokens tokens start context).1
    let read := (tokens.take result.endingPosition).map (·.kind)
    result.endingPosition ≤ tokens.length ∧
    (∃ form, Yields grammar.alternatives [.rule start] (ofWord read ++ form)) ∧
    ∀ error ∈ result.errors, ∀ kind ∈ error.expected, ∃ form,
      Yields grammar.alternatives [.rule start] (ofWord (read ++ [kind]) ++ form) := by
  intro result read
  rcases parseTokens_answered resolved.coherent defined tokens context with
    ⟨root, rest, after, -, eq⟩ | ⟨kinds, rule, rest, after, stops, eq⟩
  · rw [eq] at failure
    cases failure
  · have same : result = _ := congrArg Prod.fst eq
    obtain ⟨front, split, prefixYields, expectedYields⟩ := stops.viable resolved
    simp only at split
    have taken : read = front.map (·.kind) := by
      have position : result.endingPosition = front.length := by
        rw [same, split]
        simp [ParseResult.failed]
      simp only [read]
      rw [position, split, List.take_left]
    refine ⟨?_, ?_, ?_⟩
    · rw [same]
      exact Nat.sub_le _ _
    · rw [taken]
      exact prefixYields
    · rw [same, taken]
      intro error member kind expected
      obtain rfl := List.mem_singleton.mp member
      rw [expected_error] at expected
      exact expectedYields kind expected

/-- Behind an opening bracket and a word a list may go on with a comma. -/
theorem parseTokens_viable_list :
    let tokens := Sample.tokens [.opening, .word, .word]
    let result := (Sample.grammar.parseTokens tokens "list" ()).1
    Sample.grammar.Resolved ∧ "list" ∈ Sample.grammar.ruleNames ∧ result.isError = true ∧
      ∀ error ∈ result.errors, ∀ kind ∈ error.expected, ∃ form,
        Yields Sample.grammar.alternatives [.rule "list"]
          (ofWord ([.opening, .word] ++ [kind]) ++ form) :=
  have defined : "list" ∈ Sample.grammar.ruleNames := by decide
  ⟨Sample.resolved, defined, rfl,
    (parseTokens_viable Sample.resolved defined (Sample.tokens [.opening, .word, .word]) ()
      rfl).2.2⟩

end Grammar

end Lookahead
