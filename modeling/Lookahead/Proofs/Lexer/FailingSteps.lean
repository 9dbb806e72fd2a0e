import Lookahead.Proofs.Lexer.BuilderSteps

/-!
# Steps that fail

A step of building that goes wrong is reported, and that is all that it does to the states and the
marks. If it went wrong because it asked for a mark that no state has, then there is no current
state until the next jump, so no step before that does or reports anything. One report is enough to
let the building fail, and without one it does not.

Main statement: `AutomatonBuilder.fails_alone`.
-/

namespace Lookahead

variable {K : Type}

namespace AutomatonBuilder

variable {builder after : AutomatonBuilder K} {step : AutomatonStep K}

/-- Without a current state, states, marks and issues are as they were. -/
structure Waits (builder after : AutomatonBuilder K) : Prop where
  lost : after.current = none
  states : after.states = builder.states
  marks : after.marks = builder.marks
  issues : after.issues = builder.issues

theorem Waits.trans {last : AutomatonBuilder K} (first : builder.Waits after)
    (second : after.Waits last) : builder.Waits last :=
  ⟨second.lost, second.states.trans first.states, second.marks.trans first.marks,
    second.issues.trans first.issues⟩

/-- Without a current state only a jump does more than to change a setting. -/
theorem Effect.waits (effect : builder.Effect step after) (lost : builder.current = none)
    (stays : ∀ name, step ≠ .goto name) : builder.Waits after := by
  have nowhere {number : Nat} : builder.current ≠ some number := by simp [lost]
  cases effect with
  | sets => exact ⟨lost, rfl, rfl, rfl⟩
  | passes => exact ⟨lost, rfl, rfl, rfl⟩
  | refuses refused =>
    cases refused with
    | jump => exact absurd rfl (stays _)
    | link now | clash now | ending now | callback now => exact absurd now nowhere
  | jumps => exact absurd rfl (stays _)
  | marks now | renames now | grows now | links now | ends now | attaches now =>
    exact absurd now nowhere

variable [DecidableEq K]

theorem waits_foldl (lost : builder.current = none) {steps : List (AutomatonStep K)}
    (stay : ∀ name, .goto name ∉ steps) : builder.Waits (steps.foldl apply builder) := by
  induction steps generalizing builder with
  | nil => exact ⟨lost, rfl, rfl, rfl⟩
  | cons step steps ih =>
    have first := (builder.effect_apply step).waits lost
      fun name same => stay name (same ▸ List.mem_cons_self)
    exact first.trans (ih first.lost fun name later => stay name (List.mem_cons_of_mem _ later))

theorem Refuses.apply_eq {issue : AutomatonIssue K} {current : Option Nat}
    (refused : builder.Refuses step issue current) :
    builder.apply step = { builder.report issue with current } := by
  cases refused with
  | jump unknown => simp [apply, goto, unknown]
  | link now unknown => simp [apply, stepTo, now, unknown]
  | clash now known different => simp [apply, mark, now, known, different, report]
  | ending now ended different =>
    rw [ending_state] at ended
    simp [apply, finish, now, ended, different, report]
  | callback now endless =>
    rw [ending_state] at endless
    simp [apply, AutomatonBuilder.callback, now, endless, report]

variable [TokenKind K]

/-- The step reports something fatal. -/
def Fails (builder : AutomatonBuilder K) (step : AutomatonStep K) : Prop :=
  ∃ reported, (builder.apply step).issues = builder.issues ++ reported ∧
    ∃ issue ∈ reported, issue.diagnostic.isFatal = true

theorem fails_iff : builder.Fails step ↔ ∃ issue current, builder.Refuses step issue current := by
  constructor
  · rintro ⟨reported, more, issue, member, -⟩
    obtain same | ⟨issue, current, refused, -⟩ := (builder.effect_apply step).issues
    · obtain rfl := List.append_right_eq_self.mp (more.symm.trans same)
      cases member
    · exact ⟨issue, current, refused⟩
  · rintro ⟨issue, current, refused⟩
    exact ⟨[issue], by rw [refused.apply_eq]; rfl, issue, List.mem_singleton_self issue,
      refused.fatal⟩

/-- Nothing is reported just if no step fails in the builder that it is taken in. -/
theorem issues_ofSteps_eq_nil_iff (steps : List (AutomatonStep K)) :
    (ofSteps steps).issues = [] ↔
      ∀ before step later, steps = before ++ step :: later → ¬ (ofSteps before).Fails step := by
  induction steps using List.reverseRecOn with
  | nil => simp [ofSteps, empty]
  | append_singleton steps last ih =>
    rw [ofSteps_concat]
    constructor
    · intro unblemished before step later split
      have effect := (ofSteps steps).effect_apply last
      -- The step that is looked at is the last one, or it was taken before that.
      rcases List.eq_nil_or_concat later with rfl | ⟨rest, final, rfl⟩
      · obtain ⟨rfl, same⟩ := List.append_inj' split rfl
        obtain rfl := List.head_eq_of_cons_eq same
        rintro ⟨reported, more, issue, member, -⟩
        rw [unblemished] at more
        rw [(List.append_eq_nil_iff.mp more.symm).2] at member
        cases member
      · have earlier : steps ++ [last] = (before ++ step :: rest) ++ [final] := by
          simpa using split
        obtain ⟨same, -⟩ := List.append_inj' earlier rfl
        exact ih.mp (effect.before_unblemished unblemished) before step rest same
    · intro never
      have before : (ofSteps steps).issues = [] :=
        ih.mpr fun before step later split => never before step (later ++ [last]) (by simp [split])
      obtain same | ⟨issue, current, refused, -⟩ := ((ofSteps steps).effect_apply last).issues
      · rw [same, before]
      · exact absurd (fails_iff.mpr ⟨issue, current, refused⟩) (never steps last [] rfl)

/-- A step fails if it asks for a mark that no state has, gives a state a mark that another one has
or a second kind to end with, or attaches a callback to a state that is not terminal, and only then.
It makes one report, and states, with their transitions and endings, and marks are as they were.
Behind a mark that no state has nothing is done to them and nothing is reported before the next
jump. An automaton is built just if no step failed. -/
theorem fails_alone (steps : List (AutomatonStep K)) :
    (∀ step, (ofSteps steps).Fails step ↔
      ∃ issue current, (ofSteps steps).Refuses step issue current) ∧
    (∀ step, (ofSteps steps).Fails step →
      let after := ofSteps (steps ++ [step])
      after.states = (ofSteps steps).states ∧ after.marks = (ofSteps steps).marks ∧
        ∃ issue, after.issues = (ofSteps steps).issues ++ [issue]) ∧
    (∀ step name current, (ofSteps steps).Refuses step (.unknownMark name) current →
      ∀ others, (∀ mark, .goto mark ∉ others) →
        let after := ofSteps (steps ++ step :: others)
        after.states = (ofSteps steps).states ∧ after.marks = (ofSteps steps).marks ∧
          after.issues = (ofSteps steps).issues ++ [.unknownMark name]) ∧
    ((ofSteps steps).build.value.isSome = true ↔
      ∀ before step later, steps = before ++ step :: later → ¬ (ofSteps before).Fails step) := by
  refine ⟨fun step => fails_iff, fun step failed => ?_,
    fun step name current refused others stay => ?_, ?_⟩
  · obtain ⟨issue, current, refused⟩ := fails_iff.mp failed
    rw [ofSteps_concat, refused.apply_eq]
    exact ⟨rfl, rfl, issue, rfl⟩
  · -- Whoever asks for a mark that no state has is left without a current state.
    have lost : current = none := by cases refused <;> rfl
    have first := refused.apply_eq
    have onward : ofSteps (steps ++ step :: others) =
        others.foldl apply ((ofSteps steps).apply step) := by simp [ofSteps]
    have waits : ((ofSteps steps).apply step).Waits
        (others.foldl apply ((ofSteps steps).apply step)) :=
      waits_foldl (by rw [first, lost]) stay
    rw [← onward, first] at waits
    exact ⟨waits.states, waits.marks, waits.issues⟩
  · rw [← issues_ofSteps_eq_nil_iff, Option.isSome_iff_exists]
    simp [build_eq_some_iff]

end AutomatonBuilder

end Lookahead
