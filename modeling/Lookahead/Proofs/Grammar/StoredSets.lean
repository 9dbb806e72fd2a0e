import Lookahead.Proofs.Grammar.FirstQueries
import Lookahead.Proofs.Grammar.Simulation

/-!
# Sets found while resolving and sets found afterwards

First sets and signs of emptiness are found three times: by the search with a memo while productions
are resolved, by going through a clause with the sets that are kept in the grammar, and by the test
for one kind that the parser uses. Without left recursion the search leaves nothing out, so all
three agree on every clause, and what is kept with a rule is made of what is kept with its
alternatives.

Main statement: `Grammar.lookahead_agrees`.
-/

namespace Lookahead

variable {K V C : Type} [TokenKind K]

/-- The members of any of the sets. -/
def KindSet.unionAll (sets : List (KindSet K)) : KindSet K := sets.foldr (· ∪ ·) ∅

theorem KindSet.mem_unionAll {sets : List (KindSet K)} {kind : K} :
    kind ∈ unionAll sets ↔ ∃ set ∈ sets, kind ∈ set := by
  rw [unionAll]
  induction sets with
  | nil => simp
  | cons set sets ih => simp [ih]

namespace Grammar

variable {grammar : Grammar K V C}

/-! ### What is kept with rules and alternatives -/

theorem Coherent.alternative_first (coherent : grammar.Coherent) {name : String}
    {rule : Rule K V C} (found : grammar.rule? name = some rule)
    {alternative : Alternative K V C} (member : alternative ∈ rule.alternatives) :
    alternative.first = grammar.firstOf (.sequence alternative.clauses) :=
  KindSet.ext fun _ => coherent.mem_alternative found member

theorem Coherent.rule_first (coherent : grammar.Coherent) {name : String} {rule : Rule K V C}
    (found : grammar.rule? name = some rule) :
    rule.first = KindSet.unionAll (rule.alternatives.map (·.first)) := by
  refine KindSet.ext fun kind => (coherent.mem_rule found).trans ?_
  rw [KindSet.mem_unionAll]
  simp

theorem Coherent.rule_mayBeEmpty (coherent : grammar.Coherent) {name : String} {rule : Rule K V C}
    (found : grammar.rule? name = some rule) :
    rule.mayBeEmpty = rule.alternatives.any (·.mayBeEmpty) := by
  rw [Bool.eq_iff_iff, List.any_eq_true]
  exact coherent.rule_empty found

/-! ### What the search finds -/

section Search

variable {policy : OverlapPolicy} {pending : List (GrammarIssue K)}
  {productions : List (SemanticProduction K V C)}

theorem nullable_of_resolve
    (resolved : (Grammar.resolve policy pending productions).value = some grammar)
    (clause : Clause K) :
    (Analysis.ofProductions (Resolve.bare productions)).nullable clause =
      grammar.nullable clause := by
  obtain ⟨rfl, -, acyclic⟩ := resolve_eq_some resolved
  obtain ⟨rank, ranking⟩ := Analysis.exists_ranking acyclic
  rw [Analysis.nullable, nullable, Resolve.ruleMayBeEmpty_grammar ranking]

/-- Whatever is searched for with one memo, every set is the one that the grammar tells. -/
theorem firstOfEach_of_resolve
    (resolved : (Grammar.resolve policy pending productions).value = some grammar)
    (clauses : List (Clause K)) :
    (Analysis.firstOfEach (Analysis.ofProductions (Resolve.bare productions)).first clauses []).1 =
      clauses.map grammar.firstOf := by
  obtain ⟨rfl, -, acyclic⟩ := resolve_eq_some resolved
  obtain ⟨rank, ranking⟩ := Analysis.exists_ranking acyclic
  obtain ⟨found, -⟩ := Analysis.firstOfEach_finds clauses (Analysis.first_finds ranking)
    FirstMemo.exact_nil FirstMemo.above_nil
  have same := found.imp fun clause set exact => KindSet.ext fun kind =>
    (Resolve.mem_firstOf_grammar ranking clause kind).trans (exact kind).symm
  rw [← List.forall₂_map_left_iff, List.forall₂_eq_eq_eq] at same
  exact same.symm

end Search

/-- Lookahead is the same wherever it is found. In a grammar that was resolved the test for a kind
agrees with the first set on every clause, whatever names the clause mentions. An alternative has
the first set and the sign of the sequence of its clauses; a rule has the union of the sets of its
alternatives, and it can be empty just if one of them can. And while the productions are resolved,
every clause is found nullable as it is in the grammar, and every search with one memo for any
clauses one after the other finds their first sets in the grammar. -/
theorem lookahead_agrees {policy : OverlapPolicy} {pending : List (GrammarIssue K)}
    {productions : List (SemanticProduction K V C)}
    (resolved : (Grammar.resolve policy pending productions).value = some grammar) :
    (∀ clause kind, grammar.starts clause (some kind) = true ↔ kind ∈ grammar.firstOf clause) ∧
    (∀ rule ∈ grammar.rules,
      (∀ alternative ∈ rule.alternatives,
        alternative.first = grammar.firstOf (.sequence alternative.clauses) ∧
        alternative.mayBeEmpty = grammar.nullable (.sequence alternative.clauses)) ∧
      rule.first = KindSet.unionAll (rule.alternatives.map (·.first)) ∧
      rule.mayBeEmpty = rule.alternatives.any (·.mayBeEmpty)) ∧
    let analysis := Analysis.ofProductions (Resolve.bare productions)
    (∀ clause, analysis.nullable clause = grammar.nullable clause) ∧
    ∀ clauses,
      (Analysis.firstOfEach analysis.first clauses []).1 = clauses.map grammar.firstOf := by
  have known : grammar.Resolved := ⟨policy, pending, productions, resolved⟩
  have coherent := known.coherent
  refine ⟨fun clause kind => clause.starts_iff, fun rule member => ?_,
    nullable_of_resolve resolved, firstOfEach_of_resolve resolved⟩
  have found := rule?_of_mem known.nodup_ruleNames member
  exact ⟨fun alternative among =>
      ⟨coherent.alternative_first found among, coherent.alternative_empty found among⟩,
    coherent.rule_first found, coherent.rule_mayBeEmpty found⟩

/-- In the grammar of bracketed lists an item begins with what its three alternatives begin with,
and it can be empty as the last of them can. -/
theorem lookahead_agrees_list :
    (Grammar.resolve .reject [] Sample.productions).value = some Sample.grammar ∧
    (∃ rule ∈ Sample.grammar.rules, rule.name = "item" ∧
      rule.first = KindSet.unionAll (rule.alternatives.map (·.first)) ∧
      rule.mayBeEmpty = rule.alternatives.any (·.mayBeEmpty)) ∧
    (Sample.grammar.starts (.sequence [.rule "item", .rule "unknown"]) (some .opening) = true ↔
      Sample.Mark.opening ∈
        Sample.grammar.firstOf (.sequence [.rule "item", .rule "unknown"])) := by
  have resolved : (Grammar.resolve .reject [] Sample.productions).value = some Sample.grammar := rfl
  obtain ⟨tests, kept, -⟩ := lookahead_agrees resolved
  have named : ∃ rule ∈ Sample.grammar.rules, rule.name = "item" :=
    List.mem_map.mp (by decide : "item" ∈ Sample.grammar.rules.map (·.name))
  obtain ⟨rule, member, name⟩ := named
  exact ⟨resolved, ⟨rule, member, name, (kept rule member).2⟩, tests _ _⟩

end Grammar

end Lookahead
