import Lookahead.Lexer.Automaton.Builder

/-!
# Numbers of states

A builder keeps states by their numbers: as targets of transitions, under marks, and as the current
state. No step takes a state away, and a number is only kept of a state that is there. So in an
automaton that was built every transition leads to a state.

Main statement: `AutomatonBuilder.closed_of_build`.
-/

namespace Lookahead

variable {K : Type}

/-- Every transition of the states leads to one of the first `size` states. -/
def State.Within (size : Nat) (states : List (State K)) : Prop :=
  ∀ state ∈ states, ∀ transition ∈ state.transitions, transition.target < size

/-- There is a first state, and every transition leads to a state. -/
structure Automaton.Closed (automaton : Automaton K) : Prop where
  first : 0 < automaton.size
  targets : State.Within automaton.size automaton.states

namespace AutomatonBuilder

/-- Every number that the builder keeps is that of a state. -/
structure Closed (builder : AutomatonBuilder K) : Prop where
  first : 0 < builder.states.length
  targets : State.Within builder.states.length builder.states
  marks : ∀ mark ∈ builder.marks, mark.2 < builder.states.length
  current : ∀ number ∈ builder.current, number < builder.states.length

/-! ### Changes of a state -/

theorem within_modify {size number : Nat} {states : List (State K)} {change : State K → State K}
    (within : State.Within size states)
    (kept : ∀ state ∈ states, ∀ transition ∈ (change state).transitions,
      transition.target < size) :
    State.Within size (states.modify number change) := by
  intro state member
  obtain ⟨place, found⟩ := List.mem_iff_getElem?.mp member
  rw [List.getElem?_modify] at found
  obtain ⟨old, there, rfl⟩ := Option.map_eq_some_iff.mp found
  have before : old ∈ states := List.mem_of_getElem? there
  split
  · exact kept old before
  · exact within old before

theorem mem_insertTransition {new other : Transition} {transitions : List Transition}
    (member : other ∈ insertTransition new transitions) : other = new ∨ other ∈ transitions := by
  induction transitions with
  | nil => exact Or.inl (List.mem_singleton.mp member)
  | cons first rest ih =>
    rw [insertTransition] at member
    split at member
    · exact List.mem_cons.mp member
    · rcases List.mem_cons.mp member with here | later
      · exact Or.inr (here ▸ List.mem_cons_self)
      · exact (ih later).imp_right (List.mem_cons_of_mem first)

variable {builder : AutomatonBuilder K}

theorem Closed.lookup (closed : builder.Closed) {name : String} {number : Nat}
    (found : builder.marks.lookup name = some number) : number < builder.states.length := by
  obtain ⟨before, behind, split, -⟩ := List.lookup_eq_some_iff.mp found
  exact closed.marks (name, number) (by simp [split])

/-- A change of a state that leaves its transitions alone. -/
theorem Closed.modify (closed : builder.Closed) (number : Nat) {change : State K → State K}
    (same : ∀ state, (change state).transitions = state.transitions) :
    Closed { builder with states := builder.states.modify number change } where
  first := by simpa using closed.first
  targets := by
    rw [List.length_modify]
    refine within_modify closed.targets fun state member transition => ?_
    rw [same]
    exact closed.targets state member transition
  marks := by simpa using closed.marks
  current := by simpa using closed.current

/-! ### Steps -/

theorem closed_empty : (empty : AutomatonBuilder K).Closed where
  first := Nat.zero_lt_one
  targets := by
    intro state member transition leads
    obtain rfl := List.mem_singleton.mp member
    cases leads
  marks := by
    intro mark member
    cases member
  current := by
    intro number now
    cases now
    exact Nat.zero_lt_one

theorem Closed.report (closed : builder.Closed) (issue : AutomatonIssue K) :
    (builder.report issue).Closed :=
  ⟨closed.first, closed.targets, closed.marks, closed.current⟩

theorem Closed.lost (closed : builder.Closed) : Closed { builder with current := none } :=
  ⟨closed.first, closed.targets, closed.marks, fun _ now => nomatch now⟩

theorem Closed.addBlank (closed : builder.Closed) (c : Char) : (builder.addBlank c).Closed := by
  rw [AutomatonBuilder.addBlank]
  split
  · exact closed
  · exact ⟨closed.first, closed.targets, closed.marks, closed.current⟩

theorem Closed.mark (closed : builder.Closed) (name : String) : (builder.mark name).Closed := by
  rw [AutomatonBuilder.mark]
  split
  next => exact closed
  next current now =>
    have named : Closed { builder with
        states := builder.states.modify current fun state => { state with name := some name } } :=
      closed.modify current fun _ => rfl
    split
    next existing _ =>
      split
      · exact named
      · exact closed.report _
    next =>
      -- The new mark is on the current state.
      refine ⟨named.first, named.targets, fun mark member => ?_, named.current⟩
      rcases List.mem_append.mp member with old | new
      · exact named.marks mark old
      · obtain rfl := List.mem_singleton.mp new
        exact named.current current now

theorem Closed.goto (closed : builder.Closed) (name : String) : (builder.goto name).Closed := by
  rw [AutomatonBuilder.goto]
  split
  next number found =>
    refine ⟨closed.first, closed.targets, closed.marks, fun other now => ?_⟩
    cases now
    exact closed.lookup found
  next => exact (closed.report _).lost

theorem Closed.connect (closed : builder.Closed) (source : Nat) (test : CharTest) {target : Nat}
    (there : target < builder.states.length) : (builder.connect source test target).Closed where
  first := by simpa [AutomatonBuilder.connect] using closed.first
  targets := by
    dsimp only [AutomatonBuilder.connect]
    rw [List.length_modify]
    refine within_modify closed.targets fun state member transition inserted => ?_
    rcases mem_insertTransition inserted with rfl | old
    · exact there
    · exact closed.targets state member transition old
  marks := by simpa [AutomatonBuilder.connect] using closed.marks
  current := by simpa [AutomatonBuilder.connect] using there

/-- A new state, without transitions, takes no number away. -/
theorem Closed.grow (closed : builder.Closed) :
    Closed { builder with states := builder.states ++ [State.fresh] } := by
  have longer : builder.states.length < (builder.states ++ [State.fresh]).length := by simp
  refine ⟨Nat.zero_lt_of_lt longer, fun state member transition leads => ?_,
    fun mark member => Nat.lt_trans (closed.marks mark member) longer,
    fun number now => Nat.lt_trans (closed.current number now) longer⟩
  rcases List.mem_append.mp member with old | new
  · exact Nat.lt_trans (closed.targets state old transition leads) longer
  · obtain rfl := List.mem_singleton.mp new
    cases leads

theorem Closed.step (closed : builder.Closed) (test : CharTest) : (builder.step test).Closed := by
  rw [AutomatonBuilder.step]
  split
  next => exact closed
  next current _ => exact closed.grow.connect current test (by simp)

theorem Closed.stepTo (closed : builder.Closed) (test : CharTest) (name : String) :
    (builder.stepTo test name).Closed := by
  rw [AutomatonBuilder.stepTo]
  split
  next => exact closed
  next current _ =>
    split
    next target found => exact closed.connect current test (closed.lookup found)
    next => exact (closed.report _).lost

theorem Closed.finish [DecidableEq K] (closed : builder.Closed) (kind : K) (skipped : Bool) :
    (builder.finish kind skipped).Closed := by
  rw [AutomatonBuilder.finish]
  split
  next => exact closed
  next current _ =>
    split
    next existing _ =>
      split
      · exact closed.modify _ fun _ => rfl
      · exact closed.report _
    next => exact closed.modify _ fun _ => rfl

theorem Closed.callback (closed : builder.Closed) (change : Token K → Token K) :
    (builder.callback change).Closed := by
  rw [AutomatonBuilder.callback]
  split
  next => exact closed
  next current _ =>
    split
    next => exact closed.modify _ fun _ => rfl
    next => exact closed.report _

theorem Closed.apply [DecidableEq K] (closed : builder.Closed) (step : AutomatonStep K) :
    (builder.apply step).Closed := by
  cases step with
  | ignoreBlanks => exact ⟨closed.first, closed.targets, closed.marks, closed.current⟩
  | addBlank c => exact closed.addBlank c
  | ignoreLineEnds => exact ⟨closed.first, closed.targets, closed.marks, closed.current⟩
  | setLineBreak c => exact ⟨closed.first, closed.targets, closed.marks, closed.current⟩
  | mark name => exact closed.mark name
  | goto name => exact closed.goto name
  | step test => exact closed.step test
  | stepTo test name => exact closed.stepTo test name
  | finish kind skipped => exact closed.finish kind skipped
  | callback change => exact closed.callback change

theorem closed_ofSteps [DecidableEq K] (steps : List (AutomatonStep K)) :
    (ofSteps steps).Closed := by
  suffices onward : ∀ builder : AutomatonBuilder K, builder.Closed →
      (steps.foldl AutomatonBuilder.apply builder).Closed from onward empty closed_empty
  induction steps with
  | nil => exact fun _ closed => closed
  | cons step steps ih => exact fun builder closed => ih _ (closed.apply step)

/-- In an automaton that was built every transition leads to a state. -/
theorem closed_of_build [DecidableEq K] [TokenKind K] {steps : List (AutomatonStep K)}
    {automaton : Automaton K}
    (built : (ofSteps steps).build.value = some automaton) : automaton.Closed := by
  have closed := closed_ofSteps steps
  rw [build, Build.ofValue] at built
  dsimp only at built
  split at built
  next => cases built
  next =>
    cases built
    exact ⟨closed.first, closed.targets⟩

end AutomatonBuilder

end Lookahead
