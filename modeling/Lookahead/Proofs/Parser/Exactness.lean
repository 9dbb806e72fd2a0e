import Lookahead.Proofs.Grammar.Follow
import Lookahead.Proofs.Parser.Soundness
import Lookahead.Proofs.Parser.Termination
import Mathlib.Data.List.Pairwise

/-!
# Predictive grammars are parsed exactly

From a start rule for which the next token decides everything, the parser accepts all words of the
rule and no others. It never goes back, so what it matches has to be right at once: along the
derivation of a word, with any tokens behind the word that may follow, each call matches the part of
the word that its clause derives. Where that part is empty the tokens behind it must not lead the
parser on, and they do not, as no kind that follows a clause can begin it.

Main statements: `Grammar.exists_matches_of_derives` and `Grammar.parseTokens_exact`.
-/

namespace Lookahead

namespace Clause

variable {K : Type}

theorem choices_subset_of_mem {clause : Clause K} {clauses : List (Clause K)}
    (among : clause ∈ clauses) : clause.choices ⊆ choicesAll clauses := by
  induction clauses with
  | nil => cases among
  | cons first rest ih =>
    rw [choicesAll]
    rcases List.mem_cons.mp among with rfl | later
    · exact List.subset_append_left _ _
    · exact List.Subset.trans (ih later) (List.subset_append_right _ _)

end Clause

namespace Grammar

variable {K V C : Type} [TokenKind K] {grammar : Grammar K V C} {start : String}

/-! ### First sets of derived words -/

/-- The first kind of a word is in the first set. -/
theorem mem_firstOf_of_derives (coherent : grammar.Coherent) {clause : Clause K} {kind : K}
    {others : List K} (derives : Clause.Derives grammar.alternatives clause (kind :: others)) :
    kind ∈ grammar.firstOf clause :=
  coherent.mem_firstOf.mpr (Clause.begins_of_derives_cons coherent.ruleMayBeEmpty derives rfl)

/-- The next token is in the first set of a clause that derives the tokens in front. -/
theorem starts_of_derives (coherent : grammar.Coherent) {clause : Clause K} {token : Token K}
    {read : List (Token K)}
    (derives : Clause.Derives grammar.alternatives clause ((token :: read).map (·.kind)))
    (behind : List (Token K)) :
    grammar.starts clause (nextKind (token :: read ++ behind)) = true :=
  starts_iff.mpr ⟨token.kind, rfl, mem_firstOf_of_derives coherent derives⟩

/-- The token in front of a word of some clauses and of what may stand behind is in the first set
of all of them. -/
theorem mem_firstOf_append_of_derives (coherent : grammar.Coherent)
    {clauses rest : List (Clause K)} {read behind : List (Token K)}
    (derives : Clause.Derives grammar.alternatives (.sequence clauses) (read.map (·.kind)))
    (follow : ∀ kind ∈ nextKind behind, kind ∈ grammar.firstOf (.sequence rest)) :
    ∀ kind ∈ nextKind (read ++ behind), kind ∈ grammar.firstOf (.sequence (clauses ++ rest)) := by
  intro kind next
  rw [firstOf_sequence_append]
  cases read with
  | nil =>
    have nothing := Clause.nullable_of_derives_nil coherent.ruleMayBeEmpty derives rfl
    exact Or.inr ⟨nothing, follow kind next⟩
  | cons token others =>
    cases next
    exact Or.inl (mem_firstOf_of_derives coherent derives)

/-! ### What is taken -/

/-- Of clauses that are apart only one can begin with a kind. -/
theorem Apart.eq_of_starts {clauses : List (Clause K)} (apart : grammar.Apart clauses)
    {clause other : Clause K} (member : clause ∈ clauses) (among : other ∈ clauses)
    {next : Option K} (starts : grammar.starts clause next = true)
    (begins : grammar.starts other next = true) : clause = other := by
  obtain ⟨kind, here, member_first⟩ := starts_iff.mp starts
  obtain ⟨same, there, among_first⟩ := starts_iff.mp begins
  cases Option.some.inj (here.symm.trans there)
  by_contra different
  have disjoint : clauses.Pairwise fun earlier later =>
      ¬ (kind ∈ grammar.firstOf earlier ∧ kind ∈ grammar.firstOf later) := by
    refine apart.imp fun shared both => ?_
    have common := KindSet.mem_inter.mpr both
    rw [shared] at common
    exact KindSet.not_mem_empty common
  have symmetric : Std.Symm fun earlier later : Clause K =>
      ¬ (kind ∈ grammar.firstOf earlier ∧ kind ∈ grammar.firstOf later) :=
    ⟨fun _ _ separate both => separate both.symm⟩
  exact disjoint.forall member among different ⟨member_first, among_first⟩

/-- Where the members are apart, the one that the next token begins is picked. -/
theorem pick_of_starts {members : List (Clause K)} (apart : grammar.Apart members)
    {member : Clause K} (among : member ∈ members) {next : Option K}
    (starts : grammar.starts member next = true) : grammar.pick members next = some member := by
  obtain ⟨other, listed, picked, begins⟩ := exists_pick among starts
  rw [picked, apart.eq_of_starts listed among begins starts]

/-- Where the alternatives are apart, one with the clauses that the next token begins is taken. -/
theorem choose_of_starts (coherent : grammar.Coherent) {name : String} {rule : Rule K V C}
    (found : grammar.rule? name = some rule)
    (apart : grammar.Apart ((grammar.alternatives name).map .sequence)) {clauses : List (Clause K)}
    (member : clauses ∈ grammar.alternatives name) {next : Option K}
    (starts : grammar.starts (.sequence clauses) next = true) :
    ∃ alternative number, rule.choose next = some (alternative, number) ∧
      alternative.clauses = clauses := by
  rw [alternatives_of_some found] at apart member
  obtain ⟨own, listed, rfl⟩ := List.mem_map.mp member
  obtain ⟨alternative, among, number, chosen, begins⟩ :=
    exists_choose coherent found listed starts
  have same := apart.eq_of_starts (List.mem_map_of_mem (List.mem_map_of_mem among))
    (List.mem_map_of_mem member) begins starts
  exact ⟨alternative, number, chosen, Clause.sequence.inj same⟩

/-! ### Empty words -/

/-- A nullable clause that the next token cannot begin is matched without reading. -/
theorem exists_matches_of_nullable (coherent : grammar.Coherent) {clause : Clause K}
    {tokens : List (Token K)} (ended : grammar.starts clause (nextKind tokens) = false)
    (nothing : grammar.nullable clause = true) (caller : String) (context : C) :
    ∃ tree after, Matches grammar caller clause tokens context tree tokens after := by
  rcases run_answered coherent ⟨caller, clause, tokens, context⟩ le_rfl with
    ⟨tree, rest, after, matched, -⟩ | ⟨cause, rest, after, stops, -⟩
  · obtain ⟨rfl, -⟩ := (matched.foretold coherent).unread ended
    exact ⟨tree, after, matched⟩
  · have needed := ((stops.foretold coherent).unread ended).2
    rw [nothing] at needed
    cases needed

/-- The clause can come next, with `rest` behind it. A loop that need not go round can also be what
is left of one that has to go round once. -/
def Ready (grammar : Grammar K V C) (start : String) (clause : Clause K) (rest : List (Clause K)) :
    Prop :=
  Pending grammar start clause rest ∨
    ∃ body, clause = .zeroOrMore body ∧ Pending grammar start (.oneOrMore body) rest

theorem Ready.pending {clause : Clause K} {rest : List (Clause K)}
    (ready : Ready grammar start clause rest) (other : ∀ body, clause ≠ .zeroOrMore body) :
    Pending grammar start clause rest := by
  rcases ready with pending | ⟨body, loop, -⟩
  · exact pending
  · exact absurd loop (other body)

theorem Ready.body {body : Clause K} {rest : List (Clause K)}
    (ready : Ready grammar start (.zeroOrMore body) rest) :
    Pending grammar start body (.zeroOrMore body :: rest) := by
  rcases ready with pending | ⟨_, loop, pending⟩
  · exact pending.zeroOrMore
  · cases loop
    exact pending.oneOrMore

/-- Where it has to be decided whether to go on, what may stand behind does not begin the clause. -/
theorem starts_eq_false_of_follow (predictive : grammar.Predictive start) {clause : Clause K}
    {rest : List (Clause K)} (ready : Ready grammar start clause rest)
    (decides : grammar.decides clause = true) {next : Option K}
    (follow : ∀ kind ∈ next, kind ∈ grammar.firstOf (.sequence rest)) :
    grammar.starts clause next = false := by
  rw [Bool.eq_false_iff, ne_eq, starts_iff]
  rintro ⟨kind, here, begins⟩
  rcases ready with pending | ⟨body, rfl, pending⟩
  · exact predictive.decisions decides begins ⟨rest, pending, follow kind here⟩
  · -- What begins the loop that is left begins the loop that has to go round.
    have loop : kind ∈ grammar.firstOf (.oneOrMore body) := begins
    exact predictive.decisions rfl loop ⟨rest, pending, follow kind here⟩

/-! ### Completeness -/

theorem Pending.choices {clause : Clause K} {rest : List (Clause K)}
    (pending : Pending grammar start clause rest) {members : List (Clause K)}
    (among : members ∈ clause.choices) :
    ∃ name, ∃ clauses ∈ grammar.alternatives name, members ∈ Clause.choicesAll clauses := by
  induction pending with
  | start => cases among
  | rule _ member _ => exact ⟨_, _, member, among⟩
  | head _ ih => exact ih (List.mem_append_left _ among)
  | tail _ ih => exact ih (List.mem_append_right _ among)
  | choice _ member ih =>
    exact ih (List.mem_cons_of_mem _ (Clause.choices_subset_of_mem member among))
  | zeroOrMore _ ih | oneOrMore _ ih | optional _ ih | group _ ih => exact ih among

/-- A round in front of a loop makes a loop. A round of an empty word is left out. -/
theorem exists_matches_round (coherent : grammar.Coherent) {caller : String} {body : Clause K}
    {front others behind : List (Token K)}
    (derives : Clause.Derives grammar.alternatives body (front.map (·.kind)))
    (round : ∀ context, ∃ item between,
      Matches grammar caller body (front ++ others) context item others between)
    (loop : ∀ context, ∃ tree after,
      Matches grammar caller (.zeroOrMore body) others context tree behind after) (context : C) :
    ∃ tree after,
      Matches grammar caller (.zeroOrMore body) (front ++ others) context tree behind after := by
  cases front with
  | nil => exact loop context
  | cons token front =>
    have starts := starts_of_derives coherent derives others
    obtain ⟨item, between, first⟩ := round context
    obtain ⟨tree, after, later⟩ := loop between
    obtain ⟨items, rfl⟩ := later.eq_many
    have progress : others.length ≠ (token :: front ++ others).length := by
      simp only [List.cons_append, List.length_cons, List.length_append]
      omega
    exact ⟨_, _, .more starts first progress later⟩

/-- Behind a round of a loop stands what the loop goes on with or what follows the loop. -/
theorem mem_firstOf_loop_of_derives (coherent : grammar.Coherent) {body : Clause K}
    {rest : List (Clause K)} {back behind : List (Token K)}
    (derives : Clause.Derives grammar.alternatives (.zeroOrMore body) (back.map (·.kind)))
    (follow : ∀ kind ∈ nextKind behind, kind ∈ grammar.firstOf (.sequence rest)) :
    ∀ kind ∈ nextKind (back ++ behind),
      kind ∈ grammar.firstOf (.sequence (.zeroOrMore body :: rest)) := by
  have alone : Clause.Derives grammar.alternatives (.sequence [.zeroOrMore body])
      (back.map (·.kind)) := by
    simpa using Clause.Derives.cons derives .nil
  exact mem_firstOf_append_of_derives coherent alone follow

/-- The parser follows every derivation: where a clause can come next, it matches a word of the
clause, with any tokens behind it that may follow. -/
theorem exists_matches_of_derives (coherent : grammar.Coherent)
    (predictive : grammar.Predictive start) {clause : Clause K} {word : List K}
    (derives : Clause.Derives grammar.alternatives clause word) {rest : List (Clause K)}
    (ready : Ready grammar start clause rest) {read behind : List (Token K)}
    (spelled : read.map (·.kind) = word)
    (follow : ∀ kind ∈ nextKind behind, kind ∈ grammar.firstOf (.sequence rest))
    (caller : String) (context : C) :
    ∃ tree after, Matches grammar caller clause (read ++ behind) context tree behind after := by
  induction derives generalizing rest read behind caller context with
  | terminal kind =>
    obtain ⟨token, rfl, rfl⟩ := List.map_eq_singleton_iff.mp spelled
    exact ⟨_, _, .terminal⟩
  | @rule name clauses word member derives ih =>
    have pending := ready.pending (by simp)
    obtain ⟨rule, found, -⟩ := exists_rule_of_mem_alternatives member
    cases read with
    | nil =>
      -- The rule is nullable, and what follows it does not begin it.
      have nothing := Clause.nullable_of_derives_nil coherent.ruleMayBeEmpty
        (.rule member derives) spelled.symm
      have ended := starts_eq_false_of_follow predictive ready nothing follow
      exact exists_matches_of_nullable coherent ended nothing caller context
    | cons token read =>
      -- The first token belongs to the alternative of the derivation and to no other one.
      subst spelled
      have apart := predictive.alternatives (mem_ruleNames.mpr ⟨rule, found⟩)
      obtain ⟨alternative, number, chosen, rfl⟩ := choose_of_starts coherent found apart member
        (starts_of_derives coherent derives behind)
      obtain ⟨tree, after, matched⟩ :=
        ih (Or.inl (pending.rule member)) rfl follow rule.name context
      obtain ⟨children, rfl⟩ := matched.eq_group
      exact ⟨_, _, .rule found chosen matched⟩
  | nil =>
    obtain rfl := List.map_eq_nil_iff.mp spelled
    exact ⟨_, _, .nil⟩
  | cons _ derives ih ih' =>
    have pending := ready.pending (by simp)
    obtain ⟨front, back, rfl, rfl, rfl⟩ := List.map_eq_append_iff.mp spelled
    -- Behind the first item stands a word of the other items, or what follows the sequence.
    have next := mem_firstOf_append_of_derives coherent derives follow
    obtain ⟨tree, between, first⟩ := ih (Or.inl pending.head) rfl next caller context
    obtain ⟨_, after, later⟩ := ih' (Or.inl pending.tail) rfl follow caller between
    obtain ⟨trees, rfl⟩ := later.eq_group
    rw [List.append_assoc]
    exact ⟨_, _, .cons first later⟩
  | @choice member members word among derives ih =>
    have pending := ready.pending (by simp)
    cases read with
    | nil =>
      have nothing := Clause.nullable_of_derives_nil coherent.ruleMayBeEmpty
        (.choice among derives) spelled.symm
      have ended := starts_eq_false_of_follow predictive ready nothing follow
      exact exists_matches_of_nullable coherent ended nothing caller context
    | cons token read =>
      subst spelled
      -- The choice stands in some alternative, so its members are apart.
      obtain ⟨name, clauses, listed, inside⟩ := pending.choices List.mem_cons_self
      have apart := predictive.choices listed inside
      have picked := pick_of_starts apart among
        (starts_of_derives coherent derives behind)
      obtain ⟨tree, after, matched⟩ := ih (Or.inl (pending.choice among)) rfl follow caller context
      exact ⟨_, _, .choice picked matched⟩
  | stop =>
    obtain rfl := List.map_eq_nil_iff.mp spelled
    have ended := starts_eq_false_of_follow predictive ready rfl follow
    rw [starts_zeroOrMore] at ended
    exact ⟨_, _, .stop ended⟩
  | more first later ih ih' =>
    obtain ⟨front, back, rfl, rfl, rfl⟩ := List.map_eq_append_iff.mp spelled
    have next := mem_firstOf_loop_of_derives coherent later follow
    rw [List.append_assoc]
    exact exists_matches_round coherent first
      (fun context => ih (Or.inl ready.body) rfl next caller context)
      (fun context => ih' ready rfl follow caller context) context
  | @oneOrMore body word words first later ih ih' =>
    have pending := ready.pending (by simp)
    cases read with
    | nil =>
      have nothing := Clause.nullable_of_derives_nil coherent.ruleMayBeEmpty
        (.oneOrMore first later) spelled.symm
      have ended := starts_eq_false_of_follow predictive ready rfl follow
      exact exists_matches_of_nullable coherent ended nothing caller context
    | cons token read =>
      obtain ⟨front, back, split, rfl, rfl⟩ := List.map_eq_append_iff.mp spelled
      have next := mem_firstOf_loop_of_derives coherent later follow
      obtain ⟨tree, after, rounds⟩ := exists_matches_round coherent first
        (fun context => ih (Or.inl pending.oneOrMore) rfl next caller context)
        (fun context => ih' (Or.inr ⟨body, rfl, pending⟩) rfl follow caller context) context
      rw [← List.append_assoc, ← split] at rounds
      obtain ⟨items, rfl⟩ := rounds.eq_many
      cases items with
      | nil =>
        -- Without a round no token would be read.
        have leaves := rounds.leaves_append
        have lengths := congrArg List.length leaves
        simp [Tree.leaves, Tree.leavesAll] at lengths
        omega
      | cons item items => exact ⟨_, _, .oneOrMore rounds⟩
  | absent =>
    obtain rfl := List.map_eq_nil_iff.mp spelled
    have ended := starts_eq_false_of_follow predictive ready rfl follow
    rw [starts_optional] at ended
    exact ⟨_, _, .absent ended⟩
  | present derives ih =>
    have pending := ready.pending (by simp)
    cases read with
    | nil =>
      -- The word of the body is empty, and the parser leaves the body out.
      have ended := starts_eq_false_of_follow predictive ready rfl follow
      rw [starts_optional] at ended
      exact ⟨_, _, .absent ended⟩
    | cons token read =>
      subst spelled
      obtain ⟨tree, after, matched⟩ := ih (Or.inl pending.optional) rfl follow caller context
      exact ⟨_, _, .present (starts_of_derives coherent derives behind) matched⟩
  | group _ ih =>
    have pending := ready.pending (by simp)
    obtain ⟨tree, after, matched⟩ := ih (Or.inl pending.group) spelled follow caller context
    exact ⟨_, _, .group matched⟩

/-! ### What is accepted -/

/-- From a predictive start rule of a resolved grammar, a parse succeeds and covers all tokens just
if their kinds are a word of the rule. -/
theorem parseTokens_exact (resolved : grammar.Resolved) (predictive : grammar.Predictive start)
    (tokens : List (Token K)) (context : C) :
    let result := (grammar.parseTokens tokens start context).1
    (result.isError = false ∧ result.isEnded = true) ↔
      Clause.Derives grammar.alternatives (.rule start) (tokens.map (·.kind)) := by
  have coherent := resolved.coherent
  intro result
  constructor
  · rintro ⟨success, ended⟩
    obtain ⟨root, rest, after, matched, eq⟩ := matches_of_isError_eq_false success
    have same : result = _ := congrArg Prod.fst eq
    rw [same, List.isEmpty_iff] at ended
    subst ended
    have word := matched.conforms.derives
    have read := matched.leaves_append
    rw [List.append_nil] at read
    rwa [read] at word
  · intro derives
    have nothing : ∀ kind ∈ nextKind ([] : List (Token K)),
        kind ∈ grammar.firstOf (.sequence []) := by
      rintro kind ⟨⟩
    obtain ⟨root, after, matched⟩ := exists_matches_of_derives coherent predictive derives
      (Or.inl .start) rfl nothing start context
    rw [List.append_nil] at matched
    cases derives with
    | rule member =>
      obtain ⟨rule, found, -⟩ := exists_rule_of_mem_alternatives member
      have finished := run_finished coherent ⟨start, .rule start, tokens, context⟩ le_rfl
      have answer := matched.matchClause_eq finished
      have eq := parseTokens_of_some found tokens context
      rw [run, answer] at eq
      have same : result = _ := congrArg Prod.fst eq
      rw [same]
      exact ⟨rfl, rfl⟩

/-- The list `[word,]` is a word of the rule for lists, and two words in a row are not. -/
theorem parseTokens_exact_list :
    Sample.grammar.Resolved ∧ Sample.grammar.Predictive "list" ∧
      Clause.Derives Sample.grammar.alternatives (.rule "list")
        [.opening, .word, .comma, .closing] ∧
      ¬ Clause.Derives Sample.grammar.alternatives (.rule "list") [.word, .word] := by
  have exact := parseTokens_exact Sample.resolved Sample.predictive
  refine ⟨Sample.resolved, Sample.predictive, ?_, fun derives => ?_⟩
  · exact (exact (Sample.tokens [.opening, .word, .comma, .closing]) ()).mp ⟨rfl, rfl⟩
  · obtain ⟨-, ended⟩ := (exact (Sample.tokens [.word, .word]) ()).mpr derives
    cases ended

end Grammar

end Lookahead
