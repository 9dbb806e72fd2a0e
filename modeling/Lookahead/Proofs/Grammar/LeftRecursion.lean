import Lookahead.Grammar.LeftRecursion
import Lookahead.Proofs.Grammar.Nullability
import Mathlib.Data.Finset.Card
import Mathlib.Logic.Relation

/-!
# Without left recursion rules can be ranked

The search for a chain back to its goal ends without one only when every rule that some chain can
reach was looked at. The rules that were looked at are then closed under leading, and none of them
leads back. Where this holds of every rule, the rules that a rule leads to are fewer with each
step, and counting them gives ranks that fall along every step.

Main statement: `Analysis.exists_ranking`.
-/

namespace Lookahead

namespace Analysis

open Relation

/-! ### The search -/

section Search

variable {next : String → List String} {goal : String} {listed : List String}

/-- What the search keeps: the rules seen are distinct rules of the list, each of them was
looked at or is still waiting at the head of a chain, and those looked at lead to rules seen and
not to the goal. -/
structure Searched (next : String → List String) (goal : String) (listed : List String)
    (chains : List (List String)) (seen looked : List String) : Prop where
  nodup : seen.Nodup
  inside : seen ⊆ listed
  pending : ∀ name ∈ seen, name ∈ looked ∨ name ∈ chains.map (·.headD goal)
  closed : ∀ name ∈ looked, goal ∉ next name ∧ next name ⊆ seen

/-- One chain further: the rule at its head is looked at, and what it leads to is seen. -/
theorem Searched.step {chain : List String} {chains : List (List String)}
    {seen looked : List String}
    (searched : Searched next goal listed (chain :: chains) seen looked)
    (distinct : ∀ name, (next name).Nodup) (bounded : ∀ name, next name ⊆ listed)
    (onward : goal ∉ next (chain.headD goal)) :
    let fresh := (next (chain.headD goal)).filter (!seen.contains ·)
    Searched next goal listed (chains ++ fresh.map (· :: chain)) (seen ++ fresh)
      (chain.headD goal :: looked) := by
  intro fresh
  have mem_fresh (name : String) :
      name ∈ fresh ↔ name ∈ next (chain.headD goal) ∧ name ∉ seen := by simp [fresh]
  refine ⟨?_, ?_, ?_, ?_⟩
  · refine List.nodup_append.mpr ⟨searched.nodup, (distinct _).filter _, ?_⟩
    rintro name old _ new rfl
    exact ((mem_fresh name).mp new).2 old
  · refine List.append_subset.mpr ⟨searched.inside, fun name new => ?_⟩
    exact bounded _ ((mem_fresh name).mp new).1
  · intro name among
    rcases List.mem_append.mp among with old | new
    · rcases searched.pending name old with done | waiting
      · exact Or.inl (List.mem_cons_of_mem _ done)
      · -- What was waiting is looked at now or waits on.
        rcases List.mem_cons.mp waiting with here | later
        · exact Or.inl (here ▸ List.mem_cons_self)
        · exact Or.inr (by simp only [List.map_append, List.mem_append]; exact Or.inl later)
    · refine Or.inr ?_
      simp only [List.map_append, List.map_map, List.mem_append, List.mem_map]
      exact Or.inr ⟨name, new, rfl⟩
  · intro name among
    rcases List.mem_cons.mp among with rfl | done
    · refine ⟨onward, fun other reached => ?_⟩
      by_cases old : other ∈ seen
      · exact List.mem_append_left _ old
      · exact List.mem_append_right _ ((mem_fresh other).mpr ⟨reached, old⟩)
    · have before := searched.closed name done
      exact ⟨before.1, fun _ reached => List.mem_append_left _ (before.2 reached)⟩

/-- A search that finds no chain has looked at a set of rules that is closed under leading and
from which the goal is not reached. -/
theorem searchCycle_eq_none {bound : Nat} {chains : List (List String)}
    {seen looked : List String} (searched : Searched next goal listed chains seen looked)
    (distinct : ∀ name, (next name).Nodup) (bounded : ∀ name, next name ⊆ listed)
    (enough : chains.length + listed.length ≤ bound + seen.length)
    (missed : searchCycle next goal bound chains seen = none) :
    ∃ closed : List String, looked ⊆ closed ∧ chains.map (·.headD goal) ⊆ closed ∧
      ∀ name ∈ closed, goal ∉ next name ∧ next name ⊆ closed := by
  induction bound generalizing chains seen looked with
  | zero =>
    -- Every rule of the list is seen, so the bound leaves no room for a chain.
    have most := (List.subperm_of_subset searched.nodup searched.inside).length_le
    obtain rfl : chains = [] := List.eq_nil_of_length_eq_zero (by omega)
    refine ⟨looked, List.Subset.refl _, by simp, fun name done => ?_⟩
    refine ⟨(searched.closed name done).1, fun other reached => ?_⟩
    simpa using searched.pending other ((searched.closed name done).2 reached)
  | succ bound ih =>
    cases chains with
    | nil =>
      refine ⟨looked, List.Subset.refl _, by simp, fun name done => ?_⟩
      refine ⟨(searched.closed name done).1, fun other reached => ?_⟩
      simpa using searched.pending other ((searched.closed name done).2 reached)
    | cons chain chains =>
      simp only [searchCycle] at missed
      split at missed
      next => cases missed
      next onward =>
        have absent : goal ∉ next (chain.headD goal) := by simpa using onward
        have further := searched.step distinct bounded absent
        -- A chain is gone, and there is a new one for every rule that is seen now.
        obtain ⟨closed, before, heads, keeps⟩ := ih further (by
          simp only [List.length_append, List.length_map, List.length_cons] at enough ⊢
          omega) missed
        have here := List.cons_subset.mp before
        refine ⟨closed, here.2, ?_, keeps⟩
        simp only [List.map_append, List.append_subset] at heads
        exact List.cons_subset.mpr ⟨here.1, heads.1⟩

/-- A closed set of rules that never lead to the goal is not left on the way to the goal. -/
theorem not_transGen_of_closed {closed : List String}
    (keeps : ∀ name ∈ closed, goal ∉ next name ∧ next name ⊆ closed) {name : String}
    (member : name ∈ closed) : ¬ TransGen (fun a b => b ∈ next a) name goal := by
  intro path
  have stays : ∀ other, ReflTransGen (fun a b => b ∈ next a) name other → other ∈ closed := by
    intro other steps
    induction steps with
    | refl => exact member
    | tail _ step ih => exact (keeps _ ih).2 step
  obtain ⟨last, steps, final⟩ := TransGen.tail'_iff.mp path
  exact (keeps last (stays last steps)).1 final

end Search

/-! ### Ranks -/

/-- In a relation without cycles the elements of a list can be ranked by how many of them they
lead to. -/
theorem exists_rank_of_acyclic {leads : String → String → Prop} (listed : List String)
    (inside : ∀ a b, leads a b → b ∈ listed) (acyclic : ∀ a, ¬ TransGen leads a a) :
    ∃ rank : String → Nat, (∀ a ∈ listed, rank a < listed.length) ∧
      ∀ a b, leads a b → rank b < rank a := by
  classical
  let below (a : String) : Finset String := listed.toFinset.filter (TransGen leads a)
  refine ⟨fun a => (below a).card, fun a member => ?_, fun a b step => ?_⟩
  · -- A rule does not lead to itself, so it is not counted below itself.
    have proper : below a ⊂ listed.toFinset := by
      refine Finset.filter_ssubset.mpr ⟨a, List.mem_toFinset.mpr member, acyclic a⟩
    exact lt_of_lt_of_le (Finset.card_lt_card proper) (List.toFinset_card_le _)
  · apply Finset.card_lt_card
    refine Finset.ssubset_iff_of_subset (fun c => ?_) |>.mpr ⟨b, ?_, ?_⟩
    · simp only [below, Finset.mem_filter]
      exact fun ⟨named, path⟩ => ⟨named, TransGen.head step path⟩
    · simp only [below, Finset.mem_filter, List.mem_toFinset]
      exact ⟨inside a b step, TransGen.single step⟩
    · simp only [below, Finset.mem_filter, not_and]
      exact fun _ => acyclic b

variable {K : Type} {productions : List (Production K)}

/-- Ranks of rule names. Whatever a match of a rule can begin with has a lower rank than the
rule. -/
structure Ranking (productions : List (Production K)) (rank : String → Nat) : Prop where
  bounded : ∀ name, rank name ≤ (Production.names productions).length
  positive : ∀ name ∈ Production.names productions, 0 < rank name
  descends : ∀ name, ∀ clauses ∈ Production.alternatives productions name,
    ∀ inner ∈ Clause.leadingOfSequence (ofProductions productions).ruleNullable clauses,
      rank inner < rank name

theorem mem_leadsWith {analysis : Analysis K} {name inner : String} :
    inner ∈ analysis.leadsWith name ↔
      (∃ clauses ∈ Production.alternatives analysis.productions name,
        inner ∈ Clause.leadingOfSequence analysis.ruleNullable clauses) ∧
      inner ∈ Production.names analysis.productions := by
  simp [leadsWith, List.mem_eraseDups, Production.defines_iff]

/-- A rule for which no chain is found does not lead back to itself. -/
theorem not_transGen_of_cycle?_eq_none {analysis : Analysis K} {name : String}
    (missed : analysis.cycle? name = none) :
    ¬ TransGen (fun a b => b ∈ analysis.leadsWith a) name name := by
  have start : Searched analysis.leadsWith name (Production.names analysis.productions)
      [[name]] [] [] := ⟨List.nodup_nil, by simp, by simp, by simp⟩
  obtain ⟨closed, -, heads, keeps⟩ := searchCycle_eq_none start
    (fun _ => nodup_eraseDups _) (fun _ _ reached => (mem_leadsWith.mp reached).2)
    (by simp only [List.length_singleton, List.length_nil]; omega) missed
  exact not_transGen_of_closed keeps (heads (by simp))

/-- Where no left recursion is found, no rule leads back to itself. -/
theorem acyclic_of_leftRecursion_eq_nil {analysis : Analysis K}
    (none : analysis.leftRecursion = []) (name : String) :
    ¬ TransGen (fun a b => b ∈ analysis.leadsWith a) name name := by
  by_cases defined : name ∈ Production.names analysis.productions
  · have all := List.filterMap_eq_nil_iff.mp none name defined
    exact not_transGen_of_cycle?_eq_none (by simpa using all)
  · -- Only defined rules are led to.
    intro path
    obtain ⟨last, -, final⟩ := TransGen.tail'_iff.mp path
    exact defined (mem_leadsWith.mp final).2

/-- Productions that are not left recursive have a ranking. -/
theorem exists_ranking (none : (ofProductions productions).leftRecursion = []) :
    ∃ rank, Ranking productions rank := by
  classical
  obtain ⟨rank, small, falls⟩ := exists_rank_of_acyclic (Production.names productions)
    (fun _ _ step => (mem_leadsWith.mp step).2)
    (acyclic_of_leftRecursion_eq_nil none)
  -- The ranks of defined rules are raised by one to leave zero for all other names.
  refine ⟨fun name => if name ∈ Production.names productions then rank name + 1 else 0,
    fun name => ?_, fun name defined => ?_, fun name clauses member inner leading => ?_⟩
  · split
    next defined => exact small name defined
    next => exact Nat.zero_le _
  · simp [defined]
  · have defined := Production.mem_names_of_mem_alternatives member
    simp only [defined, if_true]
    split
    next known =>
      have step := falls name inner (mem_leadsWith.mpr ⟨⟨clauses, member, leading⟩, known⟩)
      omega
    next => exact Nat.succ_pos _

end Analysis

end Lookahead
