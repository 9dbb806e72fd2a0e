import Lookahead.Proofs.Lexer.BuilderSteps

/-!
# Marks of states

Marks are kept twice. A jump finds a state by every mark that was given to it, while the state
itself keeps the mark that it was given last as its name, and an automaton finds it by that name
only. So a state that was marked twice is lost under its earlier mark, and nothing is reported.

Main statement: `AutomatonBuilder.state?_eq_some_iff`.
-/

namespace Lookahead

variable {K : Type}

namespace AutomatonBuilder

/-- The name that a step gives to the state of that number, if it gives it one. -/
def naming? (number : Nat) (builder : AutomatonBuilder K) : AutomatonStep K → Option String
  | .mark name => if builder.current = some number then some name else none
  | _ => none

variable {builder after : AutomatonBuilder K} {step : AutomatonStep K}

theorem current_goto (builder : AutomatonBuilder K) (name : String) :
    (builder.goto name).current = builder.marks.lookup name := by
  rw [goto]
  split
  next number known => exact known.symm
  next unknown => exact unknown.symm

theorem findIdx?_name_iff (builder : AutomatonBuilder K) (name : String) (number : Nat) :
    builder.states.findIdx? (·.name = some name) = some number ↔
      (builder.state number).name = some name ∧
        ∀ earlier < number, (builder.state earlier).name ≠ some name := by
  have numbered : ∀ place, (there : place < builder.states.length) →
      builder.state place = builder.states[place] :=
    fun place there => state_of_getElem? (List.getElem?_eq_getElem there)
  rw [List.findIdx?_eq_some_iff_getElem]
  constructor
  · rintro ⟨there, found, least⟩
    refine ⟨numbered number there ▸ of_decide_eq_true found, fun earlier before => ?_⟩
    rw [numbered earlier (Nat.lt_trans before there)]
    simpa using least earlier before
  · rintro ⟨found, least⟩
    have there : number < builder.states.length := by
      refine Nat.lt_of_not_le fun far => ?_
      rw [state_of_length_le far] at found
      cases found
    refine ⟨there, decide_eq_true (numbered number there ▸ found), fun earlier before => ?_⟩
    simpa [numbered earlier (Nat.lt_trans before there)] using least earlier before

/-! ### Steps without an issue -/

/-- While nothing went wrong there is a current state. -/
theorem Effect.current (effect : builder.Effect step after) (unblemished : after.issues = [])
    (now : builder.current ≠ none) : after.current ≠ none := by
  cases effect with
  | refuses refused => simp [report] at unblemished
  | jumps known => exact Option.some_ne_none _
  | grows source => exact Option.some_ne_none _
  | links source known => exact Option.some_ne_none _
  | _ => exact now

/-- A state has the name that the step gives it, or else the one that it had. -/
theorem Effect.name (effect : builder.Effect step after) (closed : builder.Closed)
    (unblemished : after.issues = []) (number : Nat) :
    (after.state number).name = (naming? number builder step).or (builder.state number).name := by
  obtain ⟨issue, current, -, rfl⟩ | altered := effect.refuses_or_alters closed
  · simp [report] at unblemished
  · rw [altered]
    split
    next here => cases step <;> simp [alteration, naming?, here]
    next elsewhere => cases step <;> simp [naming?, elsewhere]

/-- A mark is known after a step if it was before, or if the step gives it. -/
theorem Effect.lookup (effect : builder.Effect step after) (unblemished : after.issues = [])
    (name : String) (number : Nat) :
    after.marks.lookup name = some number ↔
      builder.marks.lookup name = some number ∨ naming? number builder step = some name := by
  cases effect with
  | sets _ _ _ _ setting =>
    cases step with
    | mark => cases setting
    | _ => simp [naming?]
  | passes lost => cases step <;> simp [naming?, lost]
  | refuses refused => simp [report] at unblemished
  | @marks current given now unknown =>
    by_cases same : name = given
    · simp [same, List.lookup_append, unknown, naming?, now]
    · have other : (name == given) = false := beq_false_of_ne same
      simp [List.lookup_append, List.lookup_cons, other, naming?, Ne.symm same]
  | @renames current given now known =>
    -- The mark is given once more to the state that it was given to before.
    refine ⟨Or.inl, ?_⟩
    rintro (already | again)
    · exact already
    · obtain ⟨here, rfl⟩ : builder.current = some number ∧ given = name := by
        simpa [naming?] using again
      exact known.trans (now.symm.trans here)
  | _ => simp [naming?, connect, setEnding]

/-! ### Marks after steps without an issue -/

variable [DecidableEq K]

/-- The names that the steps give to the state of that number, in the order in which they give
them. -/
def given (number : Nat) (steps : List (AutomatonStep K)) : List String :=
  log (naming? number) empty steps

theorem given_concat (number : Nat) (steps : List (AutomatonStep K)) (step : AutomatonStep K) :
    given number (steps ++ [step]) =
      given number steps ++ (naming? number (ofSteps steps) step).toList :=
  log_concat (naming? number) steps step

/-- What holds of the marks after steps of which none went wrong. -/
structure Marked (steps : List (AutomatonStep K)) : Prop where
  current : (ofSteps steps).current ≠ none
  /-- A state has the last of its names. -/
  name : ∀ number, ((ofSteps steps).state number).name = (given number steps).getLast?
  /-- A state is known by all of its names. -/
  lookup : ∀ name number,
    (ofSteps steps).marks.lookup name = some number ↔ name ∈ given number steps
  /-- No mark was passed over. -/
  complete : ∀ name, .mark name ∈ steps ↔ ∃ number, name ∈ given number steps

theorem Marked.concat {steps : List (AutomatonStep K)} (marked : Marked steps)
    (step : AutomatonStep K) (unblemished : (ofSteps (steps ++ [step])).issues = []) :
    Marked (steps ++ [step]) := by
  have effect := (ofSteps steps).effect_apply step
  rw [← ofSteps_concat] at effect
  refine ⟨effect.current unblemished marked.current, fun number => ?_, fun name number => ?_,
    fun name => ?_⟩
  · rw [effect.name (closed_ofSteps steps) unblemished, given_concat, List.getLast?_append,
      ← marked.name]
    cases naming? number (ofSteps steps) step <;> rfl
  · rw [effect.lookup unblemished, given_concat, List.mem_append, ← marked.lookup,
      Option.mem_toList]
  · -- With a current state no mark is passed over.
    obtain ⟨current, now⟩ := Option.ne_none_iff_exists'.mp marked.current
    have taken : .mark name = step ↔ ∃ number, naming? number (ofSteps steps) step = some name := by
      cases step <;> simp [naming?, now, eq_comm]
    simp only [given_concat, List.mem_append, List.mem_singleton, Option.mem_toList, exists_or,
      marked.complete, taken]

theorem marked_of_issues {steps : List (AutomatonStep K)}
    (unblemished : (ofSteps steps).issues = []) : Marked steps := by
  induction steps using List.reverseRecOn with
  | nil =>
    exact ⟨Option.some_ne_none 0,
      fun number => by simp [ofSteps, state_empty, State.fresh, given, log],
      fun name number => by simp [ofSteps, empty, given, log],
      fun name => by simp [given, log]⟩
  | append_singleton steps step ih =>
    -- No issue is ever taken back, so nothing went wrong before the last step either.
    have effect := (ofSteps steps).effect_apply step
    rw [← ofSteps_concat] at effect
    exact (ih (effect.before_unblemished unblemished)).concat step unblemished

/-- A name finds a state in an automaton just if a jump finds that state by it and it is the last
name that the state was given. Every name that was given is found by a jump. -/
theorem state?_eq_some_iff [TokenKind K] {steps : List (AutomatonStep K)} {automaton : Automaton K}
    (built : (ofSteps steps).build.value = some automaton) (name : String) :
    (.mark name ∈ steps ↔ ∃ number, ((ofSteps steps).goto name).current = some number) ∧
      ∀ number, automaton.state? name = some number ↔
        ((ofSteps steps).goto name).current = some number ∧
          (given number steps).getLast? = some name := by
  obtain ⟨unblemished, rfl⟩ := build_eq_some_iff.mp built
  have marked := marked_of_issues unblemished
  have same : ∀ {one other}, name ∈ given one steps → name ∈ given other steps → one = other :=
    fun here there => Option.some.inj
      (((marked.lookup _ _).mpr here).symm.trans ((marked.lookup _ _).mpr there))
  simp only [current_goto, marked.lookup, marked.complete, true_and, Automaton.state?,
    findIdx?_name_iff, marked.name]
  -- No two states were given the same name, so the first one that has it is the only one.
  refine fun number => ⟨fun ⟨last, _⟩ => ⟨List.mem_of_getLast? last, last⟩,
    fun ⟨_, last⟩ => ⟨last, fun earlier before also => ?_⟩⟩
  exact Nat.ne_of_lt before (same (List.mem_of_getLast? also) (List.mem_of_getLast? last))

end AutomatonBuilder

namespace Sample

/-- The first state is marked twice. -/
def renamingSteps : List (AutomatonStep Mark) :=
  [.mark "first", .mark "second", .step (.char 'x'), .finish .word false]

end Sample

/-- By the second mark a jump and a name find the same state. -/
theorem AutomatonBuilder.state?_eq_some_iff_renaming :
    ∃ automaton, (ofSteps Sample.renamingSteps).build.value = some automaton ∧
      automaton.state? "second" = some 0 := by
  have buildable : (ofSteps Sample.renamingSteps).build.value.isSome := by decide
  obtain ⟨automaton, built⟩ := Option.isSome_iff_exists.mp buildable
  have last : (given 0 Sample.renamingSteps).getLast? = some "second" := by decide
  exact ⟨automaton, built,
    ((state?_eq_some_iff built "second").2 0).mpr ⟨by decide, last⟩⟩

/-- By the first mark a jump still finds the state, but its name is lost. -/
theorem AutomatonBuilder.mark_is_lost :
    ∃ automaton, (ofSteps Sample.renamingSteps).build.value = some automaton ∧
      (ofSteps Sample.renamingSteps).build.diagnostics = [] ∧
      .mark "first" ∈ Sample.renamingSteps ∧
      ((ofSteps Sample.renamingSteps).goto "first").current = some 0 ∧
      automaton.state? "first" = none := by
  have computed : (ofSteps Sample.renamingSteps).build.value.map (·.state? "first") =
      some none := by decide
  obtain ⟨automaton, built, lost⟩ := Option.map_eq_some_iff.mp computed
  exact ⟨automaton, built, by decide, List.mem_cons_self, by decide, lost⟩

end Lookahead
