import Lookahead.Proofs.Grammar.FirstSetGaps
import Lookahead.Proofs.Grammar.Occurrence

/-!
# What is said about overlaps

There is a fork for every rule, with its alternatives as branches, and one for every place in a
production at which a choice stands, with its members as branches. Two branches of a fork overlap
if both can begin with the same kind. There is at most one report for each pair of branches, it
tells only kinds that they share, and nothing is missed between untangled branches. So without left
recursion there is one report for each pair of branches that overlap, and it tells exactly the kinds
that they share.

Main statements: `Resolve.exists_reported_pairs` and `Resolve.exists_overlap_pairs`.
-/

namespace Lookahead

theorem KindSet.isEmpty_eq_false_iff {K : Type} [TokenKind K] {set : KindSet K} :
    set.isEmpty = false ↔ ∃ kind, kind ∈ set := by
  rw [isEmpty, List.isEmpty_eq_false_iff_exists_mem]
  rfl

/-- Where one of several branches is taken: between the alternatives of a rule, or between the
members of a choice at a place in the production of that number. -/
inductive Site where
  | rule (name : String)
  | choice (production : Nat) (place : List Nat)

/-- A site with the branches that are there, and the issue of two of them that share kinds. -/
structure Fork (K : Type) [TokenKind K] where
  site : Site
  branches : List (Clause K)
  issue : Nat → Nat → KindSet K → GrammarIssue K

namespace Fork

variable {K : Type} [TokenKind K]

/-- The fork stands in the productions. -/
inductive StandsIn (productions : List (Production K)) : Fork K → Prop
  | rule {name : String} : name ∈ Production.names productions →
      StandsIn productions ⟨.rule name,
        (Production.alternatives productions name).map .sequence, .sharedByAlternatives name⟩
  | choice {number : Nat} {place : List Nat} {production : Production K}
      {members : List (Clause K)} :
      productions[number]? = some production →
      (Clause.sequence production.clauses).at? place = some (.choice members) →
      StandsIn productions ⟨.choice number place, members,
        .sharedByMembers production.rule members⟩

/-- Both branches can begin with the kind. The branches are taken in their order, so that every
pair of them counts once. -/
def Shares (productions : List (Production K)) (fork : Fork K) (first second : Nat) (kind : K) :
    Prop :=
  first < second ∧ ∃ earlier later,
    fork.branches[first]? = some earlier ∧ fork.branches[second]? = some later ∧
      Analysis.Begins productions earlier kind ∧ Analysis.Begins productions later kind

/-- Neither of the two branches can come to begin with a left recursive rule. -/
def Clear (productions : List (Production K)) (fork : Fork K) (first second : Nat) : Prop :=
  ∀ branch, fork.branches[first]? = some branch ∨ fork.branches[second]? = some branch →
    branch.Untangled (Production.alternatives productions)

end Fork

/-- Two branches at a site, by their numbers. -/
structure BranchPair where
  site : Site
  first : Nat
  second : Nat

/-- The two branches can begin with the same kind. -/
def BranchPair.Overlaps {K : Type} [TokenKind K] (productions : List (Production K))
    (pair : BranchPair) : Prop :=
  ∃ fork, Fork.StandsIn productions fork ∧ fork.site = pair.site ∧
    ∃ kind, fork.Shares productions pair.first pair.second kind

/-- The issue is about the two branches, and tells exactly the kinds that they share. -/
def BranchPair.Told {K : Type} [TokenKind K] (productions : List (Production K))
    (pair : BranchPair) (issue : GrammarIssue K) : Prop :=
  ∃ fork shared, Fork.StandsIn productions fork ∧ fork.site = pair.site ∧
    (∀ kind, kind ∈ shared ↔ fork.Shares productions pair.first pair.second kind) ∧
      issue = fork.issue pair.first pair.second shared

/-- Neither of the two branches can come to begin with a left recursive rule. -/
def BranchPair.Clear {K : Type} [TokenKind K] (productions : List (Production K))
    (pair : BranchPair) : Prop :=
  ∀ fork, Fork.StandsIn productions fork → fork.site = pair.site →
    fork.Clear productions pair.first pair.second

/-- The issue is about the two branches, and tells at least one of the kinds that they share and no
others. If left recursion does not come in between, it tells all of them. -/
def BranchPair.Reported {K : Type} [TokenKind K] (productions : List (Production K))
    (pair : BranchPair) (issue : GrammarIssue K) : Prop :=
  ∃ fork shared, Fork.StandsIn productions fork ∧ fork.site = pair.site ∧
    (∃ kind, kind ∈ shared) ∧
    (∀ kind ∈ shared, fork.Shares productions pair.first pair.second kind) ∧
    (fork.Clear productions pair.first pair.second →
      ∀ kind, fork.Shares productions pair.first pair.second kind → kind ∈ shared) ∧
    issue = fork.issue pair.first pair.second shared

/-- What is reported about two clear branches is all that they share. -/
theorem BranchPair.Reported.told {K : Type} [TokenKind K] {productions : List (Production K)}
    {pair : BranchPair} {issue : GrammarIssue K} (reported : pair.Reported productions issue)
    (clear : pair.Clear productions) : pair.Told productions issue := by
  obtain ⟨fork, shared, stands, here, -, only, all, rfl⟩ := reported
  have complete := all (clear fork stands here)
  exact ⟨fork, shared, stands, here, fun kind => ⟨only kind, complete kind⟩, rfl⟩

namespace Resolve

variable {K : Type} [TokenKind K] {productions : List (Production K)}

/-! ### Overlapping sets -/

theorem mem_overlaps {sets : List (KindSet K)} {first second : Nat} {shared : KindSet K} :
    (first, second, shared) ∈ overlaps sets ↔
      first < second ∧ ∃ earlier later, sets[first]? = some earlier ∧
        sets[second]? = some later ∧ shared = earlier ∩ later ∧ shared.isEmpty = false := by
  simp only [overlaps, List.mem_flatMap, List.mem_filterMap]
  constructor
  · rintro ⟨⟨later, number⟩, listed, ⟨earlier, index⟩, before, same⟩
    rw [List.mem_zipIdx_iff_getElem?] at listed before
    rw [List.getElem?_take] at before
    split at before
    next small =>
      split at same
      next => cases same
      next something =>
        cases same
        exact ⟨small, earlier, later, before, listed, rfl, by simpa using something⟩
    next => cases before
  · rintro ⟨small, earlier, later, before, listed, rfl, something⟩
    refine ⟨(later, second), List.mem_zipIdx_iff_getElem?.mpr listed, (earlier, first), ?_, ?_⟩
    · rw [List.mem_zipIdx_iff_getElem?, List.getElem?_take]
      simpa [small] using before
    · simp [something]

theorem nodup_overlaps (sets : List (KindSet K)) : (overlaps sets).Nodup := by
  refine nodup_flatMap_zipIdx (fun found => found.2.1) ?_ ?_
  · rintro ⟨later, second⟩ -
    -- The earlier sets come with different numbers, and these are kept.
    refine List.pairwise_filterMap.mpr ((pairwise_zipIdx _ _).imp ?_)
    rintro ⟨set, first⟩ ⟨other, index⟩ different found here overlap there rfl
    simp only [Option.ite_none_left_eq_some, Option.some.injEq] at here there
    obtain ⟨-, rfl⟩ := here
    exact different (congrArg Prod.fst there.2).symm
  · rintro ⟨later, second⟩ - found among
    obtain ⟨⟨earlier, first⟩, -, same⟩ := List.mem_filterMap.mp among
    simp only [Option.ite_none_left_eq_some, Option.some.injEq] at same
    rw [← same.2]

/-! ### One fork -/

section OneFork

variable {fork : Fork K} {sets : List (KindSet K)}

theorem getElem?_of_forall₂ {α β : Type} {related : α → β → Prop} {list : List α}
    {others : List β} (all : List.Forall₂ related list others) {index : Nat} {item : α}
    (found : list[index]? = some item) :
    ∃ other, others[index]? = some other ∧ related item other := by
  induction all generalizing index with
  | nil => cases found
  | cons here _ ih =>
    cases index with
    | zero =>
      cases found
      exact ⟨_, rfl, here⟩
    | succ index => exact ih found

/-- Branches share what trusted sets of theirs have in common. -/
theorem shares_of_mem_overlaps
    (trusted : List.Forall₂ (Analysis.Trusted productions) fork.branches sets) {first second : Nat}
    {shared : KindSet K} (listed : (first, second, shared) ∈ overlaps sets) {kind : K}
    (common : kind ∈ shared) : fork.Shares productions first second kind := by
  obtain ⟨small, set, other, there, there', rfl, -⟩ := mem_overlaps.mp listed
  obtain ⟨earlier, before, trust⟩ := getElem?_of_forall₂ trusted.flip there
  obtain ⟨later, behind, trust'⟩ := getElem?_of_forall₂ trusted.flip there'
  obtain ⟨own, own'⟩ := KindSet.mem_inter.mp common
  exact ⟨small, earlier, later, before, behind, trust.sound kind own, trust'.sound kind own'⟩

/-- What clear branches share is in both of their sets. -/
theorem exists_overlap_of_shares
    (trusted : List.Forall₂ (Analysis.Trusted productions) fork.branches sets) {first second : Nat}
    (clear : fork.Clear productions first second) {kind : K}
    (shares : fork.Shares productions first second kind) :
    ∃ shared, (first, second, shared) ∈ overlaps sets ∧ kind ∈ shared := by
  obtain ⟨small, earlier, later, before, behind, begins, begins'⟩ := shares
  obtain ⟨set, there, trust⟩ := getElem?_of_forall₂ trusted before
  obtain ⟨other, there', trust'⟩ := getElem?_of_forall₂ trusted behind
  have own := trust.complete (clear earlier (Or.inl before)) kind begins
  have own' := trust'.complete (clear later (Or.inr behind)) kind begins'
  have common : kind ∈ set ∩ other := KindSet.mem_inter.mpr ⟨own, own'⟩
  refine ⟨set ∩ other, mem_overlaps.mpr ⟨small, set, other, there, there', rfl, ?_⟩, common⟩
  exact KindSet.isEmpty_eq_false_iff.mpr ⟨kind, common⟩

/-- Two sets overlap in one way. -/
theorem overlaps_unique {first second : Nat} {shared other : KindSet K}
    (listed : (first, second, shared) ∈ overlaps sets)
    (again : (first, second, other) ∈ overlaps sets) : shared = other := by
  obtain ⟨-, set, set', there, there', rfl, -⟩ := mem_overlaps.mp listed
  obtain ⟨-, _, _, same, same', rfl, -⟩ := mem_overlaps.mp again
  rw [there] at same
  rw [there'] at same'
  cases same
  cases same'
  rfl

/-- The issues tell where trusted sets of the branches overlap. -/
def Checked (productions : List (Production K)) (fork : Fork K) (issues : List (GrammarIssue K)) :
    Prop :=
  ∃ sets, List.Forall₂ (Analysis.Trusted productions) fork.branches sets ∧
    issues = (overlaps sets).map fun found => fork.issue found.1 found.2.1 found.2.2

/-- The issues of a fork are about overlapping branches, about each pair of them at most once, and
about all that are clear. -/
theorem Checked.exists_pairs {issues : List (GrammarIssue K)}
    (checked : Checked productions fork issues) (stands : fork.StandsIn productions) :
    ∃ pairs : List BranchPair, pairs.Nodup ∧
      (∀ pair ∈ pairs,
        fork.site = pair.site ∧ ∃ kind, fork.Shares productions pair.first pair.second kind) ∧
      (∀ pair : BranchPair, fork.site = pair.site →
        fork.Clear productions pair.first pair.second →
        ∀ kind, fork.Shares productions pair.first pair.second kind → pair ∈ pairs) ∧
      List.Forall₂ (BranchPair.Reported productions) pairs issues := by
  obtain ⟨sets, trusted, rfl⟩ := checked
  refine ⟨(overlaps sets).map fun found => ⟨fork.site, found.1, found.2.1⟩, ?_, ?_, ?_, ?_⟩
  · refine (nodup_overlaps sets).map_on ?_
    rintro ⟨first, second, shared⟩ listed ⟨_, _, other⟩ again same
    cases same
    rw [overlaps_unique listed again]
  · intro pair member
    obtain ⟨⟨first, second, shared⟩, listed, rfl⟩ := List.mem_map.mp member
    obtain ⟨-, -, -, -, -, -, something⟩ := mem_overlaps.mp listed
    obtain ⟨kind, common⟩ := KindSet.isEmpty_eq_false_iff.mp something
    exact ⟨rfl, kind, shares_of_mem_overlaps trusted listed common⟩
  · rintro ⟨site, first, second⟩ rfl clear kind shares
    obtain ⟨shared, listed, -⟩ := exists_overlap_of_shares trusted clear shares
    exact List.mem_map.mpr ⟨(first, second, shared), listed, rfl⟩
  · rw [List.forall₂_map_left_iff, List.forall₂_map_right_iff, List.forall₂_same]
    rintro ⟨first, second, shared⟩ listed
    obtain ⟨-, -, -, -, -, -, something⟩ := mem_overlaps.mp listed
    refine ⟨fork, shared, stands, rfl, KindSet.isEmpty_eq_false_iff.mp something,
      fun kind => shares_of_mem_overlaps trusted listed, fun clear kind shares => ?_, rfl⟩
    -- There is only one overlap of the two branches, so the kind is in this one.
    obtain ⟨other, again, common⟩ := exists_overlap_of_shares trusted clear shares
    rwa [overlaps_unique listed again]

end OneFork

/-! ### All forks -/

/-- The issues of forks at different sites are about their overlapping branches, about each pair of
them at most once, and about all that are clear. -/
theorem exists_pairs_of_checked {forks : List (Fork K)} {issues : List (List (GrammarIssue K))}
    (checked : List.Forall₂ (Checked productions) forks issues)
    (stand : ∀ fork ∈ forks, fork.StandsIn productions) (distinct : (forks.map Fork.site).Nodup) :
    ∃ pairs : List BranchPair, pairs.Nodup ∧
      (∀ pair ∈ pairs, ∃ fork ∈ forks,
        fork.site = pair.site ∧ ∃ kind, fork.Shares productions pair.first pair.second kind) ∧
      (∀ fork ∈ forks, ∀ pair : BranchPair, fork.site = pair.site →
        fork.Clear productions pair.first pair.second →
        ∀ kind, fork.Shares productions pair.first pair.second kind → pair ∈ pairs) ∧
      List.Forall₂ (BranchPair.Reported productions) pairs issues.flatten := by
  induction checked with
  | nil => exact ⟨[], List.nodup_nil, by simp, by simp, .nil⟩
  | @cons fork here forks others first _ ih =>
    rw [List.map_cons, List.nodup_cons] at distinct
    obtain ⟨pairs, nodup, only, all, reported⟩ := first.exists_pairs (stand fork List.mem_cons_self)
    obtain ⟨pairs', nodup', only', all', reported'⟩ :=
      ih (fun other among => stand other (List.mem_cons_of_mem _ among)) distinct.2
    refine ⟨pairs ++ pairs', List.nodup_append.mpr ⟨nodup, nodup', ?_⟩, ?_, ?_, ?_⟩
    · -- Pairs of different forks are at different sites.
      rintro pair own _ among rfl
      obtain ⟨other, member, same, -⟩ := only' pair among
      refine distinct.1 (List.mem_map.mpr ⟨other, member, ?_⟩)
      rw [same, (only pair own).1]
    · rw [List.forall_mem_append]
      refine ⟨fun pair own => ⟨fork, List.mem_cons_self, only pair own⟩, fun pair among => ?_⟩
      obtain ⟨other, member, overlap⟩ := only' pair among
      exact ⟨other, List.mem_cons_of_mem _ member, overlap⟩
    · refine List.forall_mem_cons.mpr ⟨fun pair same clear kind shares => ?_,
        fun other member pair same clear kind shares => ?_⟩
      · exact List.mem_append_left _ (all pair same clear kind shares)
      · exact List.mem_append_right _ (all' other member pair same clear kind shares)
    · rw [List.flatten_cons]
      exact List.rel_append reported reported'

/-- The forks between the alternatives of the rules. -/
def ruleForks (productions : List (Production K)) : List (Fork K) :=
  (Production.names productions).map fun name =>
    ⟨.rule name, (Production.alternatives productions name).map .sequence,
      .sharedByAlternatives name⟩

/-- The forks between the members of choices. -/
def choiceForks (productions : List (Production K)) : List (Fork K) :=
  productions.zipIdx.flatMap fun item =>
    (Clause.sequence item.1.clauses).choicesAt.map fun found =>
      ⟨.choice item.2 found.1, found.2, .sharedByMembers item.1.rule found.2⟩

/-- A fork is listed just if it stands in the productions. -/
theorem mem_forks {fork : Fork K} :
    fork ∈ ruleForks productions ++ choiceForks productions ↔ fork.StandsIn productions := by
  rw [List.mem_append]
  constructor
  · rintro (own | among)
    · obtain ⟨name, listed, rfl⟩ := List.mem_map.mp own
      exact .rule listed
    · obtain ⟨⟨production, number⟩, listed, made⟩ := List.mem_flatMap.mp among
      obtain ⟨⟨place, members⟩, found, rfl⟩ := List.mem_map.mp made
      exact .choice (List.mem_zipIdx_iff_getElem?.mp listed) ((Clause.mem_choicesAt _).mp found)
  · intro stands
    cases stands with
    | rule listed => exact Or.inl (List.mem_map.mpr ⟨_, listed, rfl⟩)
    | @choice number place production members listed found =>
      have member : (production, number) ∈ productions.zipIdx :=
        List.mem_zipIdx_iff_getElem?.mpr listed
      refine Or.inr (List.mem_flatMap.mpr ⟨_, member, ?_⟩)
      exact List.mem_map.mpr ⟨_, (Clause.mem_choicesAt _).mpr found, rfl⟩

theorem nodup_sites : ((ruleForks productions ++ choiceForks productions).map Fork.site).Nodup := by
  rw [List.map_append]
  refine List.nodup_append.mpr ⟨?_, ?_, ?_⟩
  · rw [ruleForks, List.map_map]
    refine (nodup_eraseDups _).map fun name other same => ?_
    cases same
    rfl
  · rw [choiceForks, List.map_flatMap]
    let number : Site → Nat
      | .choice production _ => production
      | .rule _ => 0
    refine nodup_flatMap_zipIdx number ?_ ?_
    · intro item _
      have places := (Clause.sequence item.1.clauses).nodup_places
      rw [List.map_map]
      have made := places.map (f := Site.choice item.2) fun _ _ same => by cases same; rfl
      rwa [List.map_map] at made
    · intro item _ made among
      simp only [List.map_map, List.mem_map] at among
      obtain ⟨found, -, rfl⟩ := among
      rfl
  · -- One is a rule, the other a choice.
    rintro site own _ among rfl
    simp only [ruleForks, choiceForks, List.map_map, List.map_flatMap, List.mem_map,
      List.mem_flatMap] at own among
    obtain ⟨name, -, rfl⟩ := own
    obtain ⟨item, -, found, -, same⟩ := among
    cases same

/-! ### What the check finds -/

theorem firstSets_trusted (productions : List (Production K)) :
    let sets := firstSets (Analysis.ofProductions productions)
    List.Forall₂ (fun production set =>
        Analysis.Trusted productions (.sequence production.clauses) set)
      productions sets.ofProductions ∧
    Analysis.Resting productions sets.memo := by
  have searches := Analysis.answer_searches (Analysis.ofProductions productions)
  obtain ⟨alternatives, resting⟩ := Analysis.firstOfEach_trusted productions
    (fun production => searches (.sequence production.clauses)) Analysis.Resting.nil
  obtain ⟨-, kept⟩ := Analysis.firstOfEach_trusted (Production.names productions)
    (fun name => searches (.rule name)) resting
  exact ⟨alternatives, kept⟩

/-- The sets of the alternatives of a rule are those of its productions. -/
theorem trusted_own {list : List (Production K)} {sets : List (KindSet K)}
    (trusted : List.Forall₂ (fun production set =>
      Analysis.Trusted productions (.sequence production.clauses) set) list sets) (name : String) :
    List.Forall₂ (Analysis.Trusted productions)
      ((Production.alternatives list name).map .sequence)
      (((list.zip sets).filter (·.1.rule = name)).map (·.2)) := by
  induction trusted with
  | nil => exact .nil
  | @cons production set list sets here _ ih =>
    by_cases own : production.rule = name
    · simpa [Production.alternatives, own] using And.intro here ih
    · simpa [Production.alternatives, own] using ih

theorem alternativeOverlaps_checked {sets : List (KindSet K)}
    (trusted : List.Forall₂ (fun production set =>
      Analysis.Trusted productions (.sequence production.clauses) set) productions sets) :
    ∃ issues, List.Forall₂ (Checked productions) (ruleForks productions) issues ∧
      alternativeOverlaps productions sets = issues.flatten := by
  let own (name : String) := ((productions.zip sets).filter (·.1.rule = name)).map (·.2)
  refine ⟨(Production.names productions).map fun name => (overlaps (own name)).map fun found =>
    .sharedByAlternatives name found.1 found.2.1 found.2.2, ?_, ?_⟩
  · rw [ruleForks, List.forall₂_map_left_iff, List.forall₂_map_right_iff, List.forall₂_same]
    intro name _
    exact ⟨own name, trusted_own trusted name, rfl⟩
  · rw [alternativeOverlaps, List.flatMap_def]

/-- The choices that are looked at are those of the forks. -/
theorem allChoices_forks (list : List (Production K)) (start : Nat) :
    List.Forall₂ (fun choice (fork : Fork K) => fork.branches = choice.2 ∧
        fork.issue = .sharedByMembers choice.1 choice.2)
      (allChoices list)
      ((list.zipIdx start).flatMap fun item =>
        (Clause.sequence item.1.clauses).choicesAt.map fun found =>
          ⟨.choice item.2 found.1, found.2, .sharedByMembers item.1.rule found.2⟩) := by
  induction list generalizing start with
  | nil => exact .nil
  | cons production rest ih =>
    have choices := (Clause.sequence production.clauses).map_snd_choicesAt
    rw [Clause.choices] at choices
    rw [allChoices, List.flatMap_cons, List.zipIdx_cons, List.flatMap_cons, ← choices]
    refine List.rel_append ?_ (ih (start + 1))
    rw [List.map_map, List.forall₂_map_left_iff, List.forall₂_map_right_iff, List.forall₂_same]
    intro found _
    exact ⟨rfl, rfl⟩

theorem choiceOverlaps_checked {choices : List (String × List (Clause K))} {forks : List (Fork K)}
    (same : List.Forall₂ (fun choice (fork : Fork K) => fork.branches = choice.2 ∧
      fork.issue = .sharedByMembers choice.1 choice.2) choices forks)
    {memo : FirstMemo K} (resting : Analysis.Resting productions memo) :
    ∃ issues, List.Forall₂ (Checked productions) forks issues ∧
      choiceOverlaps (Analysis.ofProductions productions) choices memo = issues.flatten := by
  induction same generalizing memo with
  | nil => exact ⟨[], .nil, rfl⟩
  | @cons choice fork _ _ here _ ih =>
    obtain ⟨rule, members⟩ := choice
    obtain ⟨site, branches, issue⟩ := fork
    obtain ⟨branched, told⟩ := here
    dsimp only at branched told
    subst branched told
    -- No search is under way in the memo that is left, so the next choice can be trusted too.
    have searches (branch : Clause K) (memo : FirstMemo K) :
        let found := (Analysis.ofProductions productions).first branch memo
        Analysis.Searches (Analysis.ofProductions productions) branch memo found.1 found.2 :=
      Analysis.answer_searches _ (.clause branch) memo
    obtain ⟨found, kept⟩ := Analysis.firstOfEach_trusted branches searches resting
    obtain ⟨issues, checked, eq⟩ := ih kept
    exact ⟨_ :: issues, .cons ⟨_, found, rfl⟩ checked, by rw [choiceOverlaps, eq]; rfl⟩

/-- Whatever the productions are, the issues are about branches that overlap, about each pair of
them at most once, and about all pairs of clear branches that do. -/
theorem exists_reported_pairs (productions : List (Production K)) :
    let sets := firstSets (Analysis.ofProductions productions)
    ∃ pairs : List BranchPair, pairs.Nodup ∧
      (∀ pair ∈ pairs, pair.Overlaps productions) ∧
      (∀ pair : BranchPair, pair.Clear productions → pair.Overlaps productions → pair ∈ pairs) ∧
      List.Forall₂ (BranchPair.Reported productions) pairs
        (alternativeOverlaps productions sets.ofProductions ++
          choiceOverlaps (Analysis.ofProductions productions) (allChoices productions)
            sets.memo) := by
  intro sets
  obtain ⟨alternatives, resting⟩ := firstSets_trusted productions
  obtain ⟨issues, checked, eq⟩ := alternativeOverlaps_checked alternatives
  obtain ⟨issues', checked', eq'⟩ :=
    choiceOverlaps_checked (allChoices_forks productions 0) resting
  obtain ⟨pairs, nodup, only, all, reported⟩ := exists_pairs_of_checked
    (List.rel_append checked checked') (fun _ => mem_forks.mp) nodup_sites
  rw [eq, eq', ← List.flatten_append]
  -- The forks of the list are those that stand in the productions.
  refine ⟨pairs, nodup, fun pair member => ?_, fun pair clear overlaps => ?_, reported⟩
  · obtain ⟨fork, listed, here, overlap⟩ := only pair member
    exact ⟨fork, mem_forks.mp listed, here, overlap⟩
  · obtain ⟨fork, stands, here, kind, shares⟩ := overlaps
    exact all fork (mem_forks.mpr stands) pair here (clear fork stands here) kind shares

/-- Without left recursion there is one issue for each pair of branches that overlap. -/
theorem exists_overlap_pairs
    (acyclic : ∀ name, ¬ LeftRecursive (Production.alternatives productions) name) :
    let sets := firstSets (Analysis.ofProductions productions)
    ∃ pairs : List BranchPair, pairs.Nodup ∧
      (∀ pair, pair ∈ pairs ↔ pair.Overlaps productions) ∧
      List.Forall₂ (BranchPair.Told productions) pairs
        (alternativeOverlaps productions sets.ofProductions ++
          choiceOverlaps (Analysis.ofProductions productions) (allChoices productions)
            sets.memo) := by
  intro sets
  have clear (pair : BranchPair) : pair.Clear productions :=
    fun _ _ _ branch _ => branch.untangled_of_acyclic acyclic
  obtain ⟨pairs, nodup, only, all, reported⟩ := exists_reported_pairs productions
  refine ⟨pairs, nodup, fun pair => ⟨only pair, all pair (clear pair)⟩, ?_⟩
  exact reported.imp fun pair _ about => about.told (clear pair)

end Resolve

end Lookahead
