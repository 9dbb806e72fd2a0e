import Lookahead.Proofs.Grammar.LeadingRule
import Mathlib.Data.List.Chain

/-!
# Left recursion is found and explained by a shortest chain

The search for a chain back to its goal is breadth first. The chains that wait differ in length by
one at most, with the shorter ones in front, and each of them is a shortest way to the rule at its
head. A way to a rule that was not looked at yet has to pass by a rule that waits, so no such way
is shorter than the chain in front. When that chain leads back to the goal, no shorter one does.

Main statement: `Analysis.leftRecursion_exact`.
-/

namespace Lookahead

open Relation

/-- A chain of rules from a rule back to itself: the rule stands first, every rule of the chain
leads with the one behind it, and the last one leads with the first one. -/
structure LeadsBack (leads : String → String → Prop) (name : String) (chain : List String) :
    Prop where
  starts : chain.head? = some name
  linked : chain.IsChain leads
  closes : ∀ last, chain.getLast? = some last → leads last name

namespace Analysis

/-! ### Breadth first search -/

section Search

variable {next : String → List String} {goal : String} {listed : List String}

/-- The list is a way from the goal, from the last rule to the first. -/
inductive Walk (next : String → List String) (goal : String) : List String → Prop
  | start : Walk next goal [goal]
  | step {name : String} {chain : List String} :
      Walk next goal chain → name ∈ next (chain.headD goal) → Walk next goal (name :: chain)

/-- What a search keeps if chains wait in the order of their length: they are shortest ways
without repetitions, and a chain is at most one longer than those in front of it. -/
structure Layered (next : String → List String) (goal : String) (listed : List String)
    (chains : List (List String)) (seen looked : List String) : Prop
    extends Searched next goal listed chains seen looked where
  begun : goal ∈ looked ∨ goal ∈ chains.map (·.headD goal)
  walks : ∀ chain ∈ chains, Walk next goal chain
  simple : ∀ chain ∈ chains, chain.Nodup ∧ chain ⊆ goal :: seen
  shortest : ∀ chain ∈ chains, ∀ other, Walk next goal other →
    other.headD goal = chain.headD goal → chain.length ≤ other.length
  ordered : chains.Pairwise fun chain later =>
    chain.length ≤ later.length ∧ later.length ≤ chain.length + 1

theorem Layered.start : Layered next goal listed [[goal]] [] [] where
  nodup := List.nodup_nil
  inside := List.nil_subset _
  pending := by simp
  closed := by simp
  begun := by simp
  walks := by simpa using Walk.start
  simple := by simp
  shortest chain among other walk _ := by
    obtain rfl := List.mem_singleton.mp among
    cases walk <;> simp
  ordered := List.pairwise_singleton _ _

/-- On the way to a rule that was not looked at there is one that waits, and the chain to it is
not longer than the way. -/
theorem Layered.exists_waiting {chains : List (List String)} {seen looked way : List String}
    (layered : Layered next goal listed chains seen looked) (walk : Walk next goal way)
    (unseen : way.headD goal ∉ looked) : ∃ chain ∈ chains, chain.length ≤ way.length := by
  -- A rule that waits has a chain, and this chain is a shortest way to the rule.
  have of_waiting {way : List String} (walk : Walk next goal way)
      (waiting : way.headD goal ∈ chains.map (·.headD goal)) :
      ∃ chain ∈ chains, chain.length ≤ way.length := by
    obtain ⟨chain, among, same⟩ := List.mem_map.mp waiting
    exact ⟨chain, among, layered.shortest chain among way walk same.symm⟩
  induction walk with
  | start => exact of_waiting .start (layered.begun.resolve_left unseen)
  | @step name chain walk reached ih =>
    by_cases done : chain.headD goal ∈ looked
    · -- The rule before was looked at, so this one was seen from there.
      have seen := (layered.closed _ done).2 reached
      exact of_waiting (.step walk reached) ((layered.pending name seen).resolve_left unseen)
    · obtain ⟨chain, among, short⟩ := ih done
      exact ⟨chain, among, by simp only [List.length_cons]; omega⟩

/-- The chain in front is not longer than any way to a rule that was not looked at. -/
theorem Layered.front_le {chain : List String} {chains : List (List String)}
    {seen looked way : List String}
    (layered : Layered next goal listed (chain :: chains) seen looked) (walk : Walk next goal way)
    (unseen : way.headD goal ∉ looked) : chain.length ≤ way.length := by
  obtain ⟨other, among, short⟩ := layered.exists_waiting walk unseen
  rcases List.mem_cons.mp among with rfl | later
  · exact short
  · exact ((List.pairwise_cons.mp layered.ordered).1 other later).1.trans short

/-- One chain further: the chains to the rules that are new wait behind all the others. -/
theorem Layered.step {chain : List String} {chains : List (List String)}
    {seen looked : List String}
    (layered : Layered next goal listed (chain :: chains) seen looked)
    (distinct : ∀ name, (next name).Nodup) (bounded : ∀ name, next name ⊆ listed)
    (onward : goal ∉ next (chain.headD goal)) :
    let fresh := (next (chain.headD goal)).filter (!seen.contains ·)
    Layered next goal listed (chains ++ fresh.map (· :: chain)) (seen ++ fresh)
      (chain.headD goal :: looked) := by
  intro fresh
  have mem_fresh {name : String} :
      name ∈ fresh ↔ name ∈ next (chain.headD goal) ∧ name ∉ seen := by simp [fresh]
  have grows : goal :: seen ⊆ goal :: (seen ++ fresh) :=
    List.cons_subset_cons _ (List.subset_append_left _ _)
  obtain ⟨front, others⟩ := List.pairwise_cons.mp layered.ordered
  refine ⟨layered.toSearched.step distinct bounded onward, ?_, ?_, ?_, ?_, ?_⟩
  · rcases layered.begun with done | waiting
    · exact Or.inl (List.mem_cons_of_mem _ done)
    · rw [List.map_cons] at waiting
      rcases List.mem_cons.mp waiting with here | later
      · exact Or.inl (List.mem_cons.mpr (Or.inl here))
      · exact Or.inr (by simp only [List.map_append, List.mem_append]; exact Or.inl later)
  · intro other among
    rcases List.mem_append.mp among with old | new
    · exact layered.walks other (List.mem_cons_of_mem _ old)
    · obtain ⟨name, late, rfl⟩ := List.mem_map.mp new
      exact .step (layered.walks chain List.mem_cons_self) (mem_fresh.mp late).1
  · intro other among
    rcases List.mem_append.mp among with old | new
    · have before := layered.simple other (List.mem_cons_of_mem _ old)
      exact ⟨before.1, List.Subset.trans before.2 grows⟩
    · obtain ⟨name, late, rfl⟩ := List.mem_map.mp new
      have before := layered.simple chain List.mem_cons_self
      have away : name ∉ chain := by
        intro inside
        rcases List.mem_cons.mp (before.2 inside) with rfl | old
        · exact onward (mem_fresh.mp late).1
        · exact (mem_fresh.mp late).2 old
      refine ⟨List.nodup_cons.mpr ⟨away, before.1⟩, List.cons_subset.mpr ⟨?_, ?_⟩⟩
      · exact List.mem_cons_of_mem _ (List.mem_append_right _ late)
      · exact List.Subset.trans before.2 grows
  · intro other among way walk same
    rcases List.mem_append.mp among with old | new
    · exact layered.shortest other (List.mem_cons_of_mem _ old) way walk same
    · obtain ⟨name, late, rfl⟩ := List.mem_map.mp new
      obtain ⟨reached, unseen⟩ := mem_fresh.mp late
      cases walk with
      | start =>
        obtain rfl : goal = name := same
        exact absurd reached onward
      | @step last before walk came =>
        obtain rfl : last = name := same
        -- The rule before was not looked at, or else this one had been seen.
        have waits : before.headD goal ∉ looked := by
          intro done
          exact unseen ((layered.closed _ done).2 came)
        have := layered.front_le walk waits
        simp only [List.length_cons]
        omega
  · refine List.pairwise_append.mpr ⟨others, ?_, ?_⟩
    · refine List.pairwise_map.mpr (List.pairwise_of_forall fun _ _ => ?_)
      simp
    · intro other old later new
      obtain ⟨name, -, rfl⟩ := List.mem_map.mp new
      have := front other old
      simp only [List.length_cons]
      omega

/-- The chain that a search finds leads back to the goal and repeats no rule, and no way back is
shorter. -/
theorem searchCycle_shortest {bound : Nat} {chains : List (List String)}
    {seen looked found : List String}
    (layered : Layered next goal listed chains seen looked)
    (distinct : ∀ name, (next name).Nodup) (bounded : ∀ name, next name ⊆ listed)
    (came : searchCycle next goal bound chains seen = some found) :
    ∃ chain, found = chain.reverse ∧ Walk next goal chain ∧ goal ∈ next (chain.headD goal) ∧
      chain.Nodup ∧
      ∀ other, Walk next goal other → goal ∈ next (other.headD goal) →
        chain.length ≤ other.length := by
  induction bound generalizing chains seen looked with
  | zero => cases came
  | succ bound ih =>
    cases chains with
    | nil => cases came
    | cons chain chains =>
      simp only [searchCycle] at came
      split at came
      next back =>
        refine ⟨chain, (Option.some.inj came).symm, layered.walks chain List.mem_cons_self,
          by simpa using back, (layered.simple chain List.mem_cons_self).1, ?_⟩
        intro other walk closes
        -- No rule that was looked at leads to the goal.
        exact layered.front_le walk fun done => (layered.closed _ done).1 closes
      next onward =>
        have absent : goal ∉ next (chain.headD goal) := by simpa using onward
        exact ih (layered.step distinct bounded absent) came

/-- A way from the goal that can be closed is a chain back to the goal when it is turned around. -/
theorem leadsBack_reverse_iff {chain : List String} :
    LeadsBack (fun a b => b ∈ next a) goal chain.reverse ↔
      Walk next goal chain ∧ goal ∈ next (chain.headD goal) := by
  have walk_iff : Walk next goal chain ↔
      chain.getLast? = some goal ∧ chain.IsChain fun name last => name ∈ next last := by
    induction chain with
    | nil =>
      constructor
      · intro walk; cases walk
      · rintro ⟨none, -⟩; cases none
    | cons name rest ih =>
      cases rest with
      | nil =>
        constructor
        · intro walk
          cases walk with
          | start => simp
          | step walk _ => cases walk
        · rintro ⟨same, -⟩
          obtain rfl : name = goal := by simpa using same
          exact .start
      | cons last before =>
        rw [List.isChain_cons_cons, List.getLast?_cons_cons]
        constructor
        · intro walk
          cases walk with
          | step walk reached =>
            obtain ⟨starts, linked⟩ := ih.mp walk
            exact ⟨starts, reached, linked⟩
        · rintro ⟨starts, reached, linked⟩
          exact .step (ih.mpr ⟨starts, linked⟩) reached
  rw [walk_iff]
  constructor
  · rintro ⟨starts, linked, closes⟩
    rw [List.head?_reverse] at starts
    rw [List.isChain_reverse] at linked
    refine ⟨⟨starts, linked⟩, ?_⟩
    cases chain with
    | nil => cases starts
    | cons last before => exact closes last (by simp)
  · rintro ⟨⟨starts, linked⟩, closes⟩
    refine ⟨by rwa [List.head?_reverse], by rwa [List.isChain_reverse], fun last same => ?_⟩
    cases chain with
    | nil => cases starts
    | cons other before =>
      obtain rfl : other = last := by simpa using same
      exact closes

/-- The end of a way is reached from the goal. -/
theorem Walk.path {chain : List String} (walk : Walk next goal chain) :
    ReflTransGen (fun a b => b ∈ next a) goal (chain.headD goal) := by
  induction walk with
  | start => exact .refl
  | step _ reached ih => exact ih.tail reached

end Search

/-! ### Left recursion -/

variable {K : Type} (productions : List (Production K))

/-- The steps of the search are those from a rule to one that it leads with. -/
theorem leads_eq :
    Leads (Production.alternatives productions) =
      fun name inner => inner ∈ (ofProductions productions).leadsWith name := by
  funext name inner
  have front (clauses : List (Clause K)) :
      inner ∈ Clause.leadingOfSequence (ofProductions productions).ruleNullable clauses ↔
        Clause.LeadsWith (Production.alternatives productions) (.sequence clauses) inner :=
    Clause.mem_leading_iff (nullable_iff_derives_nil productions) (.sequence clauses)
  rw [mem_leadsWith, Leads, Production.alternatives_ne_nil_iff, and_comm]
  simp only [ofProductions] at front ⊢
  simp only [front]

/-- A chain that is found for a rule leads from the rule back to it, and none is shorter. -/
theorem cycle?_shortest {name : String} {chain : List String}
    (came : (ofProductions productions).cycle? name = some chain) :
    LeadsBack (Leads (Production.alternatives productions)) name chain ∧ chain.Nodup ∧
      ∀ other, LeadsBack (Leads (Production.alternatives productions)) name other →
        chain.length ≤ other.length := by
  obtain ⟨way, rfl, walk, closes, distinct, least⟩ := searchCycle_shortest Layered.start
    (fun _ => nodup_eraseDups _) (fun _ _ reached => (mem_leadsWith.mp reached).2) came
  rw [leads_eq]
  refine ⟨leadsBack_reverse_iff.mpr ⟨walk, closes⟩, List.nodup_reverse.mpr distinct, ?_⟩
  intro other back
  -- The way is compared with the other chain turned around.
  rw [← List.reverse_reverse other] at back
  obtain ⟨walk', closes'⟩ := leadsBack_reverse_iff.mp back
  simpa using least other.reverse walk' closes'

/-- A chain is found for a rule exactly when the rule is left recursive. -/
theorem isSome_cycle?_iff {name : String} :
    ((ofProductions productions).cycle? name).isSome = true ↔
      LeftRecursive (Production.alternatives productions) name := by
  rw [leftRecursive_iff_transGen, leads_eq]
  cases came : (ofProductions productions).cycle? name with
  | none => exact iff_of_false (by simp) (not_transGen_of_cycle?_eq_none came)
  | some chain =>
    obtain ⟨way, -, walk, closes, -⟩ := searchCycle_shortest Layered.start
      (fun _ => nodup_eraseDups _) (fun _ _ reached => (mem_leadsWith.mp reached).2) came
    exact iff_of_true rfl (TransGen.tail' walk.path closes)

/-- Only a rule with alternatives is left recursive. -/
theorem mem_names_of_leftRecursive {name : String}
    (recursive : LeftRecursive (Production.alternatives productions) name) :
    name ∈ Production.names productions := by
  obtain ⟨inner, ⟨-, clauses, member, -⟩, -⟩ :=
    TransGen.head'_iff.mp (leftRecursive_iff_transGen.mp recursive)
  exact Production.mem_names_of_mem_alternatives member

theorem leftRecursion_names (analysis : Analysis K) :
    analysis.leftRecursion.map Prod.fst =
      (Production.names analysis.productions).filter fun name =>
        (analysis.cycle? name).isSome := by
  rw [leftRecursion]
  induction Production.names analysis.productions with
  | nil => rfl
  | cons name rest ih => cases came : analysis.cycle? name <;> simp [came, ih]

theorem leftRecursion_eq_nil_iff :
    (ofProductions productions).leftRecursion = [] ↔
      ∀ name, ¬ LeftRecursive (Production.alternatives productions) name := by
  rw [← List.map_eq_nil_iff (f := Prod.fst), leftRecursion_names, List.filter_eq_nil_iff]
  simp only [isSome_cycle?_iff]
  constructor
  · intro none name recursive
    exact none name (mem_names_of_leftRecursive productions recursive) recursive
  · intro none name _
    exact none name

end Analysis

/-- The left recursive rules are listed in the order of declaration, each of them once, and with a
shortest chain from the rule back to it, in which no rule is repeated. -/
theorem Analysis.leftRecursion_exact {K : Type} (productions : List (Production K)) :
    let recursive := (ofProductions productions).leftRecursion
    let alternatives := Production.alternatives productions
    (recursive.map Prod.fst).Sublist (Production.names productions) ∧
      (recursive.map Prod.fst).Nodup ∧
      (∀ name, name ∈ recursive.map Prod.fst ↔ LeftRecursive alternatives name) ∧
      ∀ name chain, (name, chain) ∈ recursive →
        LeadsBack (Leads alternatives) name chain ∧ chain.Nodup ∧
          ∀ other, LeadsBack (Leads alternatives) name other → chain.length ≤ other.length := by
  intro recursive alternatives
  have names := leftRecursion_names (ofProductions productions)
  have sublist : (recursive.map Prod.fst).Sublist (Production.names productions) := by
    rw [names]
    exact List.filter_sublist
  refine ⟨sublist, sublist.nodup (nodup_eraseDups _), fun name => ?_, fun name chain listed => ?_⟩
  · rw [names, List.mem_filter, isSome_cycle?_iff]
    constructor
    · exact And.right
    · intro found
      exact ⟨mem_names_of_leftRecursive productions found, found⟩
  · obtain ⟨rule, -, found⟩ := List.mem_filterMap.mp listed
    obtain ⟨way, came, same⟩ := Option.map_eq_some_iff.mp found
    cases same
    exact cycle?_shortest productions came

/-- The way back to `c` leads behind a rule with the empty word, and no way is shorter. -/
theorem Analysis.leftRecursion_exact_circle :
    let productions : List (Production Unit) :=
      [⟨"a", [.rule "o", .rule "b"]⟩, ⟨"o", [.optional (.terminal ())]⟩, ⟨"b", [.rule "c"]⟩,
        ⟨"b", [.rule "a"]⟩, ⟨"c", [.rule "a"]⟩]
    (ofProductions productions).leftRecursion =
        [("a", ["a", "b"]), ("b", ["b", "a"]), ("c", ["c", "a", "b"])] ∧
      LeftRecursive (Production.alternatives productions) "c" ∧
      ¬ LeftRecursive (Production.alternatives productions) "o" ∧
      ∀ other, LeadsBack (Leads (Production.alternatives productions)) "c" other →
        3 ≤ other.length := by
  intro productions
  have found : (ofProductions productions).leftRecursion =
      [("a", ["a", "b"]), ("b", ["b", "a"]), ("c", ["c", "a", "b"])] := by decide
  obtain ⟨-, -, listed, shortest⟩ := leftRecursion_exact productions
  refine ⟨found, (listed "c").mp (by simp [found]), ?_, ?_⟩
  · rw [← listed "o"]
    simp [found]
  · exact (shortest "c" ["c", "a", "b"] (by simp [found])).2.2

end Lookahead
