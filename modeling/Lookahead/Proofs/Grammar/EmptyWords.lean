import Lookahead.Proofs.Grammar.Language

/-!
# Nullable clauses have the empty word

The sweeps that look for nullable rules note a rule on account of rules that were noted before it.
So a derivation of the empty word can be built up along the sweeps, and what is found is the least
fixed point: a clause is nullable exactly when the empty word is one of its words. Rules that only
lead to one another are never noted.

Main statements: `Analysis.nullable_iff_derives_nil` and
`Grammar.Resolved.nullable_iff_derives_nil`.
-/

namespace Lookahead

namespace Clause

variable {K : Type} {alternatives : String → List (List (Clause K))} {empty : String → Bool}

/-- A sequence has the empty word just if all its items have it. -/
theorem derives_sequence_nil_iff {items : List (Clause K)} :
    Derives alternatives (.sequence items) [] ↔ ∀ item ∈ items, Derives alternatives item [] := by
  induction items with
  | nil => simpa using Derives.nil
  | cons item rest ih =>
    rw [List.forall_mem_cons, ← ih]
    constructor
    · intro derives
      generalize nothing : ([] : List K) = whole at derives
      cases derives with
      | cons first others =>
        obtain ⟨rfl, rfl⟩ := List.append_eq_nil_iff.mp nothing.symm
        exact ⟨first, others⟩
    · rintro ⟨first, others⟩
      exact Derives.cons first others

/-- If the rules that are said to be nullable have the empty word, so have all nullable clauses. -/
theorem derives_nil_of_nullable
    (sound : ∀ name, empty name = true → Derives alternatives (.rule name) [])
    (clause : Clause K) (nothing : clause.nullable empty = true) :
    Derives alternatives clause [] := by
  induction clause with
  | terminal kind => cases nothing
  | rule name => exact sound name nothing
  | sequence items ih =>
    rw [nullable, nullableAll_iff] at nothing
    exact derives_sequence_nil_iff.mpr fun item member => ih item member (nothing item member)
  | choice members ih =>
    rw [nullable, nullableAny_iff] at nothing
    obtain ⟨member, among, empties⟩ := nothing
    exact .choice among (ih member among empties)
  | zeroOrMore body => exact .stop
  | oneOrMore body ih => exact .oneOrMore (ih nothing) .stop
  | optional body => exact .absent
  | group body label ih => exact .group (ih nothing)

end Clause

namespace Production

variable {K : Type} {productions : List (Production K)} {known : List String}

/-- Every rule of the list has the empty word. -/
def Emptied (productions : List (Production K)) (known : List String) : Prop :=
  ∀ name ∈ known, Clause.Derives (alternatives productions) (.rule name) []

/-- A rule that is noted has an alternative of nullable clauses, by what was noted before. -/
theorem Emptied.note (emptied : Emptied productions known) (name : String) :
    Emptied productions (noteNullable productions known name) := by
  rcases noteNullable_cases productions known name with ⟨-, nothing, eq⟩ | ⟨eq, -⟩
  · rw [eq]
    intro other among
    rcases List.mem_append.mp among with old | new
    · exact emptied other old
    · obtain rfl := List.mem_singleton.mp new
      obtain ⟨clauses, member, all⟩ := List.any_eq_true.mp nothing
      refine .rule member (Clause.derives_nil_of_nullable (fun inner noted => ?_) _ all)
      exact emptied inner (by simpa using noted)
  · rwa [eq]

theorem Emptied.foldl (emptied : Emptied productions known) (pending : List String) :
    Emptied productions (pending.foldl (noteNullable productions) known) := by
  induction pending generalizing known with
  | nil => exact emptied
  | cons name rest ih => exact ih (emptied.note name)

theorem Emptied.nullableFrom (emptied : Emptied productions known) (bound : Nat) :
    Emptied productions (nullableFrom productions bound known) := by
  induction bound generalizing known with
  | zero => exact emptied
  | succ bound ih =>
    simp only [Production.nullableFrom]
    split
    · exact emptied
    · exact ih (emptied.foldl _)

theorem nullableRules_emptied : Emptied productions (nullableRules productions) := by
  have start : Emptied productions [] := by simp [Emptied]
  exact start.nullableFrom _

end Production

namespace Analysis

variable {K : Type} (productions : List (Production K))

/-- A rule with an alternative of nullable clauses is nullable. -/
theorem ruleNullable_of_alternative {name : String} {clauses : List (Clause K)}
    (member : clauses ∈ Production.alternatives productions name)
    (nothing : Clause.nullableAll (ofProductions productions).ruleNullable clauses = true) :
    (ofProductions productions).ruleNullable name = true := by
  rw [ruleNullable_eq]
  exact List.any_eq_true.mpr ⟨clauses, member, nothing⟩

theorem derives_nil_of_ruleNullable (name : String)
    (nothing : (ofProductions productions).ruleNullable name = true) :
    Clause.Derives (Production.alternatives productions) (.rule name) [] := by
  have noted : name ∈ Production.nullableRules productions := by
    simpa [ruleNullable, ofProductions] using nothing
  exact Production.nullableRules_emptied name noted

/-- A clause is found nullable exactly when the empty word is one of its words. -/
theorem nullable_iff_derives_nil (clause : Clause K) :
    (ofProductions productions).nullable clause = true ↔
      Clause.Derives (Production.alternatives productions) clause [] := by
  constructor
  · intro nothing
    exact Clause.derives_nil_of_nullable (derives_nil_of_ruleNullable productions) clause nothing
  · intro derives
    exact Clause.nullable_of_derives_nil
      (fun _ _ member => ruleNullable_of_alternative productions member) derives rfl

end Analysis

namespace Grammar

variable {K V C : Type} [TokenKind K] {grammar : Grammar K V C}

/-- What a resolved grammar keeps of its productions. -/
theorem Resolved.exists_productions (resolved : grammar.Resolved) :
    ∃ productions : List (Production K),
      grammar.alternatives = Production.alternatives productions ∧
        grammar.ruleMayBeEmpty = (Analysis.ofProductions productions).ruleNullable := by
  obtain ⟨policy, pending, productions, succeeded⟩ := resolved
  obtain ⟨rfl, -, acyclic⟩ := resolve_eq_some succeeded
  obtain ⟨rank, ranking⟩ := Analysis.exists_ranking acyclic
  exact ⟨_, funext (Resolve.alternatives_grammar ranking), Resolve.ruleMayBeEmpty_grammar ranking⟩

/-- A clause of a resolved grammar is nullable exactly when the empty word is one of its words. -/
theorem Resolved.nullable_iff_derives_nil (resolved : grammar.Resolved) (clause : Clause K) :
    grammar.nullable clause = true ↔ Clause.Derives grammar.alternatives clause [] := by
  obtain ⟨productions, same, empty⟩ := resolved.exists_productions
  rw [same, ← Analysis.nullable_iff_derives_nil, nullable, empty]
  rfl

end Grammar

end Lookahead
