import Lookahead.Proofs.Lexer.BuilderSteps

/-!
# The most specific transition wins

A state tries its transitions by class, and those of one class in the order in which they were
added, however the steps that added them jumped between states. The ranks of tests are in the order
of the classes. Putting a transition in its place in a list that is sorted is sorting it with the
others, because a sorted list is determined by what it has of each rank. So of the transitions that
accept a character the first one added of the most specific class is followed.

Main statement: `AutomatonBuilder.most_specific_wins`.
-/

namespace Lookahead

variable {K : Type}

/-! ### Classes of tests -/

/-- Whether the first test is of a more specific class than the second. Single characters come in
front of ranges, ranges in front of exclusions, and exclusions in front of the test that accepts
everything. -/
def CharTest.outranks : CharTest → CharTest → Bool
  | .char _, .range _ _ => true
  | .char _, .except _ => true
  | .char _, .any => true
  | .range _ _, .except _ => true
  | .range _ _, .any => true
  | .except _, .any => true
  | _, _ => false

theorem CharTest.outranks_eq (one other : CharTest) :
    one.outranks other = decide (one.rank < other.rank) := by
  cases one <;> cases other <;> rfl

namespace Transition

/-- Whether the first transition may stand in front of the second, which is so unless the second
is of a more specific class. -/
def classLe (one other : Transition) : Bool := !other.test.outranks one.test

/-! ### Lists in the order of ranks -/

/-- Whether the first transition is at least as specific as the second. -/
def rankLe (one other : Transition) : Bool := one.test.rank ≤ other.test.rank

theorem classLe_eq_rankLe : classLe = rankLe := by
  funext one other
  rw [classLe, rankLe, CharTest.outranks_eq, ← decide_not]
  exact decide_eq_decide.mpr Nat.not_lt

theorem rankLe_trans (one other third : Transition) (first : one.rankLe other = true)
    (second : other.rankLe third = true) : one.rankLe third = true := by
  simp only [rankLe, decide_eq_true_eq] at *
  exact Nat.le_trans first second

theorem rankLe_total (one other : Transition) : (one.rankLe other || other.rankLe one) = true := by
  simp only [rankLe, Bool.or_eq_true, decide_eq_true_eq]
  exact Nat.le_total _ _

/-- The transitions are in the order of their ranks. -/
def Ranked (transitions : List Transition) : Prop :=
  transitions.Pairwise fun one other => one.rankLe other = true

/-- The transitions of that rank. -/
def ofRank (rank : Nat) (transitions : List Transition) : List Transition :=
  transitions.filter fun transition => transition.test.rank = rank

variable {transitions others : List Transition} {transition other : Transition}

theorem ofRank_cons (rank : Nat) (first : Transition) (rest : List Transition) :
    ofRank rank (first :: rest) =
      if first.test.rank = rank then first :: ofRank rank rest else ofRank rank rest := by
  simp [ofRank, List.filter_cons]

theorem ofRank_append (rank : Nat) (transitions others : List Transition) :
    ofRank rank (transitions ++ others) = ofRank rank transitions ++ ofRank rank others :=
  List.filter_append transitions others

theorem mem_ofRank {rank : Nat} :
    transition ∈ ofRank rank transitions ↔
      transition ∈ transitions ∧ transition.test.rank = rank := by
  simp [ofRank]

theorem ranked_mergeSort (transitions : List Transition) :
    Ranked (transitions.mergeSort rankLe) :=
  List.pairwise_mergeSort rankLe_trans rankLe_total transitions

/-- Sorting keeps the order of the transitions of one rank. -/
theorem ofRank_mergeSort (rank : Nat) (transitions : List Transition) :
    ofRank rank (transitions.mergeSort rankLe) = ofRank rank transitions := by
  have alike : (ofRank rank transitions).Pairwise fun one other => one.rankLe other = true := by
    refine List.pairwise_of_forall_mem_list fun one here other there => ?_
    rw [rankLe, (mem_ofRank.mp here).2, (mem_ofRank.mp there).2]
    exact decide_eq_true (Nat.le_refl rank)
  have kept : (ofRank rank transitions).Sublist (transitions.mergeSort rankLe) :=
    List.sublist_mergeSort rankLe_trans rankLe_total alike List.filter_sublist
  have within : (ofRank rank transitions).Sublist (ofRank rank (transitions.mergeSort rankLe)) := by
    simpa [ofRank] using kept.filter fun transition => transition.test.rank = rank
  exact (within.eq_of_length
    ((List.mergeSort_perm transitions rankLe).filter _).length_eq.symm).symm

theorem mem_iff_of_ofRank (same : ∀ rank, ofRank rank transitions = ofRank rank others) :
    transition ∈ transitions ↔ transition ∈ others := by
  have here : transition ∈ ofRank transition.test.rank transitions ↔
      transition ∈ ofRank transition.test.rank others := by rw [same]
  simpa [mem_ofRank] using here

theorem Ranked.head_le {first : Transition} (sorted : Ranked (first :: transitions))
    (there : transition ∈ first :: transitions) : first.test.rank ≤ transition.test.rank := by
  rcases List.mem_cons.mp there with rfl | later
  · exact Nat.le_refl _
  · exact of_decide_eq_true (List.rel_of_pairwise_cons sorted later)

/-- Two lists in the order of ranks that have the same transitions of each rank are the same. -/
theorem Ranked.eq_of_ofRank (sorted : Ranked transitions) (alsoSorted : Ranked others)
    (same : ∀ rank, ofRank rank transitions = ofRank rank others) : transitions = others := by
  induction transitions generalizing others with
  | nil =>
    refine (List.eq_nil_iff_forall_not_mem.mpr fun other there => ?_).symm
    exact absurd ((mem_iff_of_ofRank same).mpr there) List.not_mem_nil
  | cons first rest ih =>
    cases others with
    | nil => exact absurd ((mem_iff_of_ofRank same).mp List.mem_cons_self) List.not_mem_nil
    | cons head tail =>
      -- Each head stands in the other list as well, so neither has the lower rank.
      have lower := sorted.head_le ((mem_iff_of_ofRank same).mpr List.mem_cons_self)
      have upper := alsoSorted.head_le ((mem_iff_of_ofRank same).mp List.mem_cons_self)
      have level : head.test.rank = first.test.rank := Nat.le_antisymm upper lower
      have heads := same first.test.rank
      simp only [ofRank_cons, level, if_true, List.cons.injEq] at heads
      obtain ⟨rfl, -⟩ := heads
      refine congrArg (first :: ·) (ih sorted.of_cons alsoSorted.of_cons fun rank => ?_)
      have tails := same rank
      simp only [ofRank_cons] at tails
      split at tails
      · exact List.tail_eq_of_cons_eq tails
      · exact tails

/-! ### Insertion -/

open AutomatonBuilder (insertTransition mem_insertTransition)

theorem Ranked.insert (sorted : Ranked transitions) (new : Transition) :
    Ranked (insertTransition new transitions) := by
  induction transitions with
  | nil => exact List.pairwise_singleton _ _
  | cons first rest ih =>
    rw [insertTransition]
    split
    next before =>
      refine List.pairwise_cons.mpr ⟨fun later there => ?_, sorted⟩
      exact decide_eq_true (Nat.le_trans (Nat.le_of_lt before) (sorted.head_le there))
    next behind =>
      refine List.pairwise_cons.mpr ⟨fun later there => ?_, ih sorted.of_cons⟩
      rcases mem_insertTransition there with rfl | old
      · exact decide_eq_true (Nat.le_of_not_lt behind)
      · exact List.rel_of_pairwise_cons sorted old

/-- The new transition comes last of its rank. -/
theorem Ranked.ofRank_insert (sorted : Ranked transitions) (new : Transition) (rank : Nat) :
    ofRank rank (insertTransition new transitions) = ofRank rank (transitions ++ [new]) := by
  induction transitions with
  | nil => rfl
  | cons first rest ih =>
    rw [insertTransition]
    split
    next before =>
      -- Everything behind the new transition is less specific than it is.
      by_cases level : new.test.rank = rank
      · have none : ofRank rank (first :: rest) = [] := by
          refine List.filter_eq_nil_iff.mpr fun later there => ?_
          have less := Nat.lt_of_lt_of_le before (sorted.head_le there)
          simpa [← level] using Nat.ne_of_gt less
        rw [ofRank_append, none, ofRank_cons, if_pos level, none, ofRank_cons, if_pos level]
        rfl
      · rw [ofRank_append, ofRank_cons, if_neg level, ofRank_cons rank new [], if_neg level]
        exact (List.append_nil _).symm
    next behind => rw [List.cons_append, ofRank_cons, ofRank_cons, ih sorted.of_cons]

/-- Putting a transition in its place is sorting it with the others, behind which it was added. -/
theorem insertTransition_mergeSort (new : Transition) (transitions : List Transition) :
    insertTransition new (transitions.mergeSort rankLe) =
      (transitions ++ [new]).mergeSort rankLe := by
  have sorted := ranked_mergeSort transitions
  refine (sorted.insert new).eq_of_ofRank (ranked_mergeSort _) fun rank => ?_
  rw [sorted.ofRank_insert, ofRank_mergeSort, ofRank_append, ofRank_append, ofRank_mergeSort]

/-! ### The transition that is followed -/

/-- Of the transitions that accept the character this is the first one of the most specific class.
Those in front of it are of less specific classes, and those behind it are not of a more specific
one. -/
def Preferred (transitions : List Transition) (c : Char) (transition : Transition) : Prop :=
  ∃ earlier later, transitions = earlier ++ transition :: later ∧
    transition.test.accepts c = true ∧
    (∀ other ∈ earlier, other.test.accepts c = true →
      transition.test.outranks other.test = true) ∧
    ∀ other ∈ later, other.test.accepts c = true → other.test.outranks transition.test = false

variable {c : Char}

theorem preferred_iff : Preferred transitions c transition ↔
    ∃ earlier later, transitions = earlier ++ transition :: later ∧
      transition.test.accepts c = true ∧
      (∀ other ∈ earlier, other.test.accepts c = true → transition.test.rank < other.test.rank) ∧
      ∀ other ∈ later, other.test.accepts c = true →
        transition.test.rank ≤ other.test.rank := by
  simp only [Preferred, CharTest.outranks_eq, decide_eq_true_eq, decide_eq_false_iff_not,
    Nat.not_lt]

theorem Preferred.unique (here : Preferred transitions c transition)
    (there : Preferred transitions c other) : transition = other := by
  obtain ⟨earlier, later, rfl, accepts, lower, least⟩ := preferred_iff.mp here
  obtain ⟨before, behind, split, alsoAccepts, alsoLower, alsoLeast⟩ := preferred_iff.mp there
  -- Unless they are at the same place, one of them comes first and the other is more specific.
  obtain ⟨between, rfl, onward⟩ | ⟨between, rfl, onward⟩ := List.append_eq_append_iff.mp split
  · obtain ⟨rfl, same⟩ | ⟨more, rfl, rfl⟩ := List.cons_eq_append_iff.mp onward
    · exact (List.head_eq_of_cons_eq same).symm
    · have less := alsoLower transition (by simp) accepts
      exact absurd (least other (by simp) alsoAccepts) (Nat.not_le_of_lt less)
  · obtain ⟨rfl, same⟩ | ⟨more, rfl, rfl⟩ := List.cons_eq_append_iff.mp onward
    · exact List.head_eq_of_cons_eq same
    · have less := lower other (by simp) alsoAccepts
      exact absurd (alsoLeast transition (by simp) accepts) (Nat.not_le_of_lt less)

/-- What comes before a transition and has its rank still comes before it once they are sorted. -/
theorem exists_eq_append_of_mergeSort {before behind : List Transition}
    (split : transitions.mergeSort rankLe = before ++ transition :: behind) :
    ∃ earlier later, transitions = earlier ++ transition :: later ∧
      ∀ other ∈ earlier, other.test.rank = transition.test.rank → other ∈ before := by
  have same := ofRank_mergeSort transition.test.rank transitions
  rw [split, ofRank_append, ofRank_cons, if_pos rfl] at same
  obtain ⟨earlier, rest, rfl, earlierSame, restSame⟩ := List.filter_eq_append_iff.mp same.symm
  obtain ⟨skipped, later, rfl, skips, -, -⟩ := List.filter_eq_cons_iff.mp restSame
  refine ⟨earlier ++ skipped, later, by simp, fun other there level => ?_⟩
  rcases List.mem_append.mp there with first | next
  · have kept : other ∈ ofRank transition.test.rank before :=
      earlierSame ▸ mem_ofRank.mpr ⟨first, level⟩
    exact (mem_ofRank.mp kept).1
  · exact absurd (decide_eq_true level) (skips other next)

theorem preferred_of_find? (found :
    (transitions.mergeSort rankLe).find? (·.test.accepts c) = some transition) :
    Preferred transitions c transition := by
  obtain ⟨accepts, before, behind, split, refused⟩ := List.find?_eq_some_iff_append.mp found
  obtain ⟨earlier, later, rfl, kept⟩ := exists_eq_append_of_mergeSort split
  have notBefore : ∀ other ∈ before, other.test.accepts c = false := by simpa using refused
  have sorted : Ranked (before ++ transition :: behind) := split ▸ ranked_mergeSort _
  have onward : Ranked (transition :: behind) := (List.pairwise_append.mp sorted).2.1
  have least : ∀ other ∈ earlier ++ transition :: later, other.test.accepts c = true →
      transition.test.rank ≤ other.test.rank := by
    intro other there alsoAccepts
    rw [← List.mem_mergeSort, split] at there
    rcases List.mem_append.mp there with first | next
    · simp [notBefore other first] at alsoAccepts
    · exact onward.head_le next
  refine preferred_iff.mpr ⟨earlier, later, rfl, accepts, fun other there alsoAccepts => ?_,
    fun other there => least other (by simp [there])⟩
  refine Nat.lt_of_le_of_ne (least other (by simp [there]) alsoAccepts) fun level => ?_
  simp [notBefore other (kept other there level.symm)] at alsoAccepts

/-- In the sorted list the preferred transition comes first of those that accept the character. -/
theorem find?_mergeSort_iff :
    (transitions.mergeSort rankLe).find? (·.test.accepts c) = some transition ↔
      Preferred transitions c transition := by
  refine ⟨preferred_of_find?, fun preferred => ?_⟩
  have ⟨earlier, later, split, accepts, _⟩ := preferred
  have there : transition ∈ transitions.mergeSort rankLe :=
    List.mem_mergeSort.mpr (split ▸ by simp)
  cases found : (transitions.mergeSort rankLe).find? (·.test.accepts c) with
  | none => exact absurd accepts (List.find?_eq_none.mp found transition there)
  | some first => rw [(preferred_of_find? found).unique preferred]

end Transition

namespace AutomatonBuilder

/-- The transition that a step adds to the state of that number, if it adds one there. -/
def addition? (number : Nat) (builder : AutomatonBuilder K) : AutomatonStep K → Option Transition
  | .step test =>
    if builder.current = some number then some ⟨test, builder.states.length⟩ else none
  | .stepTo test name =>
    if builder.current = some number then (builder.marks.lookup name).map (⟨test, ·⟩) else none
  | _ => none

variable {builder after : AutomatonBuilder K} {step : AutomatonStep K}

theorem Effect.transitions (effect : builder.Effect step after) (closed : builder.Closed)
    (number : Nat) :
    (after.state number).transitions =
      (addition? number builder step).elim (builder.state number).transitions
        (insertTransition · (builder.state number).transitions) := by
  obtain ⟨issue, current, refused, rfl⟩ | altered := effect.refuses_or_alters closed
  · -- Of the steps that go wrong only one was to add a transition, and its target is not known.
    cases refused with
    | link now unknown => simp [addition?, unknown, report, state]
    | _ => rfl
  · rw [altered]
    split
    next here =>
      cases step with
      | stepTo test name =>
        rw [addition?, if_pos here, alteration]
        cases builder.marks.lookup name <;> rfl
      | step test => rw [addition?, if_pos here, alteration]; rfl
      | _ => rfl
    next elsewhere => cases step <;> simp [addition?, elsewhere]

variable [DecidableEq K]

/-- The transitions that the steps add to the state of that number, in the order in which they add
them. -/
def added (number : Nat) (steps : List (AutomatonStep K)) : List Transition :=
  log (addition? number) empty steps

theorem transitions_ofSteps (number : Nat) (steps : List (AutomatonStep K)) :
    ((ofSteps steps).state number).transitions =
      (added number steps).mergeSort Transition.rankLe := by
  induction steps using List.reverseRecOn with
  | nil => simp [added, log, ofSteps, state_empty, State.fresh]
  | append_singleton steps step ih =>
    -- The list was sorted before the step, which puts at most one transition in its place.
    rw [added, log_concat, ofSteps_concat,
      ((ofSteps steps).effect_apply step).transitions (closed_ofSteps steps), ih]
    cases addition? number (ofSteps steps) step with
    | none => simp [added]
    | some new => exact Transition.insertTransition_mergeSort new (added number steps)

/-- Whatever the order of the steps, a state has just the transitions that were added to it, stably
sorted by class, and each leads to a state. So an automaton follows of the transitions that accept a
character the first one added of the most specific class, and stops just if none accepts it. -/
theorem most_specific_wins [TokenKind K] {steps : List (AutomatonStep K)} {number : Nat}
    {state : State K} (there : (ofSteps steps).states[number]? = some state) :
    state.transitions = (added number steps).mergeSort Transition.classLe ∧
      state.transitions.Perm (added number steps) ∧
      (∀ transition ∈ added number steps, transition.target < (ofSteps steps).states.length) ∧
      ∀ automaton, (ofSteps steps).build.value = some automaton → ∀ c,
        (∀ target, automaton.next? number c = some target ↔
          ∃ transition, Transition.Preferred (added number steps) c transition ∧
            transition.target = target) ∧
        (automaton.next? number c = none ↔
          ∀ transition ∈ added number steps, transition.test.accepts c = false) := by
  have sorted : state.transitions = (added number steps).mergeSort Transition.rankLe := by
    rw [← transitions_ofSteps, state_of_getElem? there]
  have perm : state.transitions.Perm (added number steps) :=
    sorted ▸ List.mergeSort_perm _ _
  refine ⟨Transition.classLe_eq_rankLe ▸ sorted, perm, fun transition new => ?_,
    fun automaton built c => ?_⟩
  · exact (closed_ofSteps steps).targets state (List.mem_of_getElem? there) transition
      (perm.mem_iff.mpr new)
  · obtain ⟨-, rfl⟩ := build_eq_some_iff.mp built
    have follows : Automaton.next? ⟨(ofSteps steps).states, (ofSteps steps).ignored,
        (ofSteps steps).ignoresLineEnds, (ofSteps steps).lineBreak⟩ number c =
          (((added number steps).mergeSort Transition.rankLe).find? (·.test.accepts c)).map
            (·.target) := by
      rw [Automaton.next?, there, Option.bind_some, State.next?, sorted]
    rw [follows]
    constructor
    · intro target
      simp only [Option.map_eq_some_iff, Transition.find?_mergeSort_iff]
    · simp

end AutomatonBuilder

namespace Sample

/-- Five transitions from the first state, those of more specific classes later. -/
def overlappingSteps : List (AutomatonStep Mark) :=
  [.mark "start", .step .any, .finish .word false,
    .goto "start", .step (.except ['0']), .finish .comma false,
    .goto "start", .step (.range 'a' 'z'), .finish .word false,
    .goto "start", .step (.range 'a' 'c'), .finish .opening false,
    .goto "start", .step (.char 'b'), .finish .closing false]

end Sample

/-- The single character wins against the ranges, of the ranges the earlier one wins, and the
exclusion wins against the test that accepts everything, unless it excludes the character. -/
theorem AutomatonBuilder.most_specific_wins_overlapping :
    ∃ automaton, (ofSteps Sample.overlappingSteps).build.value = some automaton ∧
      added 0 Sample.overlappingSteps =
        [⟨.any, 1⟩, ⟨.except ['0'], 2⟩, ⟨.range 'a' 'z', 3⟩, ⟨.range 'a' 'c', 4⟩,
          ⟨.char 'b', 5⟩] ∧
      automaton.next? 0 'b' = some 5 ∧ automaton.next? 0 'a' = some 3 ∧
      automaton.next? 0 '1' = some 2 ∧ automaton.next? 0 '0' = some 1 := by
  have buildable : (ofSteps Sample.overlappingSteps).build.value.isSome := by decide
  obtain ⟨automaton, built⟩ := Option.isSome_iff_exists.mp buildable
  obtain ⟨-, -, -, followed⟩ := most_specific_wins
    (List.getElem?_eq_getElem (closed_ofSteps Sample.overlappingSteps).first)
  have additions : added 0 Sample.overlappingSteps =
      [⟨.any, 1⟩, ⟨.except ['0'], 2⟩, ⟨.range 'a' 'z', 3⟩, ⟨.range 'a' 'c', 4⟩,
        ⟨.char 'b', 5⟩] := by decide
  rw [additions] at followed
  refine ⟨automaton, built, additions, ?_, ?_, ?_, ?_⟩
  · refine ((followed automaton built 'b').1 5).mpr ⟨⟨.char 'b', 5⟩, ?_, rfl⟩
    exact ⟨[⟨.any, 1⟩, ⟨.except ['0'], 2⟩, ⟨.range 'a' 'z', 3⟩, ⟨.range 'a' 'c', 4⟩], [], rfl, rfl,
      by decide, by decide⟩
  · refine ((followed automaton built 'a').1 3).mpr ⟨⟨.range 'a' 'z', 3⟩, ?_, rfl⟩
    exact ⟨[⟨.any, 1⟩, ⟨.except ['0'], 2⟩], [⟨.range 'a' 'c', 4⟩, ⟨.char 'b', 5⟩], rfl, rfl,
      by decide, by decide⟩
  · refine ((followed automaton built '1').1 2).mpr ⟨⟨.except ['0'], 2⟩, ?_, rfl⟩
    exact ⟨[⟨.any, 1⟩], [⟨.range 'a' 'z', 3⟩, ⟨.range 'a' 'c', 4⟩, ⟨.char 'b', 5⟩], rfl, rfl,
      by decide, by decide⟩
  · refine ((followed automaton built '0').1 1).mpr ⟨⟨.any, 1⟩, ?_, rfl⟩
    exact ⟨[], [⟨.except ['0'], 2⟩, ⟨.range 'a' 'z', 3⟩, ⟨.range 'a' 'c', 4⟩, ⟨.char 'b', 5⟩], rfl,
      rfl, by decide, by decide⟩

end Lookahead
