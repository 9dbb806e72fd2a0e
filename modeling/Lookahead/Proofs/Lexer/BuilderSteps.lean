import Mathlib.Data.List.Induction
import Lookahead.Proofs.Grammar.Coherence
import Lookahead.Proofs.Lexer.StateNumbers

/-!
# What a step of building does

A step changes a setting, is passed over without a current state, goes wrong and is reported, or
does what it is for. What holds of a builder after any steps follows from these cases, and what the
steps did to a state can be told from a log of them. An automaton is built just if no step went
wrong.

Main statements: `AutomatonBuilder.effect_apply` and `AutomatonBuilder.build_eq_some_iff`.
-/

namespace Lookahead

variable {K α : Type}

/-- Whether a step is about the text between tokens or about lines, and not about states. -/
def AutomatonStep.isSetting : AutomatonStep K → Bool
  | .ignoreBlanks => true
  | .addBlank _ => true
  | .ignoreLineEnds => true
  | .setLineBreak _ => true
  | _ => false

namespace AutomatonBuilder

/-- The state of that number, or a fresh one if there is none. -/
def state (builder : AutomatonBuilder K) (number : Nat) : State K :=
  builder.states[number]?.getD .fresh

/-- A step goes wrong with the issue, and then this is the current state. -/
inductive Refuses (builder : AutomatonBuilder K) :
    AutomatonStep K → AutomatonIssue K → Option Nat → Prop
  | jump {name : String} : builder.marks.lookup name = none →
      Refuses builder (.goto name) (.unknownMark name) none
  | link {current : Nat} {test : CharTest} {name : String} :
      builder.current = some current → builder.marks.lookup name = none →
      Refuses builder (.stepTo test name) (.unknownMark name) none
  | clash {current other : Nat} {name : String} :
      builder.current = some current → builder.marks.lookup name = some other →
      other ≠ current → Refuses builder (.mark name) (.duplicateMark name) (some current)
  | ending {current : Nat} {existing : Ending K} {kind : K} {skipped : Bool} :
      builder.current = some current → (builder.state current).ending = some existing →
      existing.kind ≠ kind →
      Refuses builder (.finish kind skipped)
        (.secondEnding (builder.title current) existing.kind kind) (some current)
  | callback {current : Nat} {change : Token K → Token K} :
      builder.current = some current → (builder.state current).ending = none →
      Refuses builder (.callback change) (.callbackWithoutEnding (builder.title current))
        (some current)

/-- What a step makes of a builder. -/
inductive Effect (builder : AutomatonBuilder K) : AutomatonStep K → AutomatonBuilder K → Prop
  | sets {step : AutomatonStep K} (ignoresBlanks : Bool) (blanks : List Char)
      (ignoresLineEnds : Bool) (lineBreak : Char) : step.isSetting = true →
      Effect builder step { builder with ignoresBlanks, blanks, ignoresLineEnds, lineBreak }
  | passes {step : AutomatonStep K} : builder.current = none → Effect builder step builder
  | refuses {step : AutomatonStep K} {issue : AutomatonIssue K} {current : Option Nat} :
      builder.Refuses step issue current →
      Effect builder step { builder.report issue with current }
  | marks {current : Nat} {name : String} :
      builder.current = some current → builder.marks.lookup name = none →
      Effect builder (.mark name) { builder with
        states := builder.states.modify current fun state => { state with name := some name }
        marks := builder.marks ++ [(name, current)] }
  | renames {current : Nat} {name : String} :
      builder.current = some current → builder.marks.lookup name = some current →
      Effect builder (.mark name) { builder with
        states := builder.states.modify current fun state => { state with name := some name } }
  | jumps {number : Nat} {name : String} : builder.marks.lookup name = some number →
      Effect builder (.goto name) { builder with current := some number }
  | grows {source : Nat} {test : CharTest} : builder.current = some source →
      Effect builder (.step test)
        ({ builder with states := builder.states ++ [State.fresh] }.connect source test
          builder.states.length)
  | links {source target : Nat} {test : CharTest} {name : String} :
      builder.current = some source → builder.marks.lookup name = some target →
      Effect builder (.stepTo test name) (builder.connect source test target)
  | ends {current : Nat} {kind : K} {skipped : Bool} : builder.current = some current →
      (∀ existing ∈ (builder.state current).ending, existing.kind = kind) →
      Effect builder (.finish kind skipped) (builder.setEnding current ⟨kind, skipped, none⟩)
  | attaches {current : Nat} {ending : Ending K} {change : Token K → Token K} :
      builder.current = some current → (builder.state current).ending = some ending →
      Effect builder (.callback change)
        (builder.setEnding current { ending with callback := some change })

variable {builder after : AutomatonBuilder K} {step : AutomatonStep K}

/-! ### States by their numbers -/

theorem ending_state (builder : AutomatonBuilder K) (number : Nat) :
    (builder.state number).ending = builder.states[number]?.bind (·.ending) := by
  rw [state]
  cases builder.states[number]? <;> rfl

theorem state_of_getElem? {number : Nat} {found : State K}
    (there : builder.states[number]? = some found) : builder.state number = found := by
  rw [state, there, Option.getD_some]

theorem state_of_length_le {number : Nat} (far : builder.states.length ≤ number) :
    builder.state number = .fresh := by
  rw [state, List.getElem?_eq_none far, Option.getD_none]

/-- A state that is changed is changed in its place only. -/
theorem getD_modify (states : List (State K)) (change : State K → State K) {source : Nat}
    (there : source < states.length) (number : Nat) :
    (states.modify source change)[number]?.getD .fresh =
      if source = number then change (states[number]?.getD .fresh)
      else states[number]?.getD .fresh := by
  rw [List.getElem?_modify]
  by_cases same : source = number
  · subst same
    simp [List.getElem?_eq_getElem there]
  · simp [same]

/-- A new state is not told from one that is missing. -/
theorem getD_append_fresh (states : List (State K)) (number : Nat) :
    (states ++ [State.fresh])[number]?.getD .fresh = states[number]?.getD .fresh := by
  rcases Nat.lt_or_ge number states.length with there | far
  · rw [List.getElem?_append_left there]
  · rw [List.getElem?_append_right far, List.getElem?_eq_none far, List.getElem?_singleton]
    split <;> rfl

theorem state_empty (number : Nat) : (empty : AutomatonBuilder K).state number = .fresh :=
  getD_append_fresh [] number

/-! ### Steps -/

/-- A step that goes wrong without losing the current state is reported and does nothing else. -/
theorem Effect.reports {issue : AutomatonIssue K}
    (refused : builder.Refuses step issue builder.current) :
    builder.Effect step (builder.report issue) :=
  .refuses refused

theorem effect_mark (builder : AutomatonBuilder K) (name : String) :
    builder.Effect (.mark name) (builder.mark name) := by
  rw [mark]
  split
  next lost => exact .passes lost
  next current now =>
    split
    next existing known =>
      split
      next same => exact .renames now (same ▸ known)
      next different => exact .reports (now ▸ .clash now known different)
    next unknown => exact .marks now unknown

theorem effect_goto (builder : AutomatonBuilder K) (name : String) :
    builder.Effect (.goto name) (builder.goto name) := by
  rw [goto]
  split
  next number known => exact .jumps known
  next unknown => exact .refuses (.jump unknown)

theorem effect_step (builder : AutomatonBuilder K) (test : CharTest) :
    builder.Effect (.step test) (builder.step test) := by
  rw [AutomatonBuilder.step]
  split
  next lost => exact .passes lost
  next current now => exact .grows now

theorem effect_stepTo (builder : AutomatonBuilder K) (test : CharTest) (name : String) :
    builder.Effect (.stepTo test name) (builder.stepTo test name) := by
  rw [stepTo]
  split
  next lost => exact .passes lost
  next current now =>
    split
    next target known => exact .links now known
    next unknown => exact .refuses (.link now unknown)

theorem effect_finish [DecidableEq K] (builder : AutomatonBuilder K) (kind : K) (skipped : Bool) :
    builder.Effect (.finish kind skipped) (builder.finish kind skipped) := by
  rw [finish]
  split
  next lost => exact .passes lost
  next current now =>
    rw [← ending_state]
    split
    next existing ended =>
      split
      next same => exact .ends now (by simp [ended, same])
      next different => exact .reports (now ▸ .ending now ended different)
    next endless => exact .ends now (by simp [endless])

theorem effect_callback (builder : AutomatonBuilder K) (change : Token K → Token K) :
    builder.Effect (.callback change) (builder.callback change) := by
  rw [callback]
  split
  next lost => exact .passes lost
  next current now =>
    rw [← ending_state]
    split
    next ending ended => exact .attaches now ended
    next endless => exact .reports (now ▸ .callback now endless)

theorem effect_addBlank (builder : AutomatonBuilder K) (c : Char) :
    builder.Effect (.addBlank c) (builder.addBlank c) := by
  rw [addBlank]
  split
  · exact .sets builder.ignoresBlanks builder.blanks _ _ rfl
  · exact .sets builder.ignoresBlanks _ _ _ rfl

theorem effect_apply [DecidableEq K] (builder : AutomatonBuilder K) (step : AutomatonStep K) :
    builder.Effect step (builder.apply step) := by
  cases step with
  | ignoreBlanks => exact .sets _ builder.blanks _ _ rfl
  | addBlank c => exact builder.effect_addBlank c
  | ignoreLineEnds => exact .sets builder.ignoresBlanks _ _ _ rfl
  | setLineBreak c => exact .sets builder.ignoresBlanks _ _ c rfl
  | mark name => exact builder.effect_mark name
  | goto name => exact builder.effect_goto name
  | step test => exact builder.effect_step test
  | stepTo test name => exact builder.effect_stepTo test name
  | finish kind skipped => exact builder.effect_finish kind skipped
  | callback change => exact builder.effect_callback change

/-- What a step makes of the current state unless it goes wrong. -/
def alteration (builder : AutomatonBuilder K) : AutomatonStep K → State K → State K
  | .mark name, state => { state with name := some name }
  | .step test, state =>
    { state with
      transitions := insertTransition ⟨test, builder.states.length⟩ state.transitions }
  | .stepTo test name, state =>
    { state with
      transitions := (builder.marks.lookup name).elim state.transitions fun target =>
        insertTransition ⟨test, target⟩ state.transitions }
  | .finish kind skipped, state => { state with ending := some ⟨kind, skipped, none⟩ }
  | .callback change, state =>
    { state with ending := state.ending.map fun ending => { ending with callback := some change } }
  | _, state => state

/-- A step that does not go wrong alters the current state and no other one. -/
theorem Effect.refuses_or_alters (effect : builder.Effect step after) (closed : builder.Closed) :
    (∃ issue current, builder.Refuses step issue current ∧
      after = { builder.report issue with current }) ∨
    ∀ number, after.state number =
      if builder.current = some number then builder.alteration step (builder.state number)
      else builder.state number := by
  cases effect with
  | refuses refused => exact .inl ⟨_, _, refused, rfl⟩
  | sets _ _ _ _ setting =>
    refine .inr fun number => ?_
    have same : builder.alteration step (builder.state number) = builder.state number := by
      cases step with
      | mark | step | stepTo | finish | callback => cases setting
      | _ => rfl
    rw [same, ite_self]
    rfl
  | passes lost => exact .inr fun number => by rw [if_neg (by simp [lost])]
  | jumps known => exact .inr fun number => (ite_self _).symm
  | grows now =>
    refine .inr fun number => ?_
    have there := Nat.lt_succ_of_lt (closed.current _ now)
    rw [state, connect, getD_modify _ _ (by simpa using there), getD_append_fresh, now]
    simp only [Option.some.injEq]
    rfl
  | links now known =>
    refine .inr fun number => ?_
    rw [state, connect, getD_modify _ _ (closed.current _ now), now]
    simp only [alteration, known, Option.elim_some, Option.some.injEq]
    rfl
  | attaches now ended =>
    refine .inr fun number => ?_
    rw [state, setEnding, getD_modify _ _ (closed.current _ now), now]
    simp only [Option.some.injEq]
    split
    next here => rw [← here, alteration, ended]; rfl
    next elsewhere => rfl
  | marks now _ | renames now _ | ends now _ =>
    refine .inr fun number => ?_
    rw [state, now]
    simp only [setEnding, getD_modify _ _ (closed.current _ now), Option.some.injEq]
    rfl

/-! ### Issues -/

/-- A step reports at most one issue, and only if it goes wrong. -/
theorem Effect.issues (effect : builder.Effect step after) :
    after.issues = builder.issues ∨ ∃ issue current, builder.Refuses step issue current ∧
      after.issues = builder.issues ++ [issue] := by
  cases effect with
  | refuses refused => exact .inr ⟨_, _, refused, rfl⟩
  | _ => exact .inl rfl

/-- No step takes an issue back. -/
theorem Effect.before_unblemished (effect : builder.Effect step after)
    (unblemished : after.issues = []) : builder.issues = [] := by
  obtain same | ⟨issue, current, -, more⟩ := effect.issues
  · rw [← same, unblemished]
  · simp [more] at unblemished

theorem Refuses.fatal [TokenKind K] {issue : AutomatonIssue K} {current : Option Nat}
    (refused : builder.Refuses step issue current) : issue.diagnostic.isFatal = true := by
  cases refused <;> rfl

theorem mild_of_mem_deadEnds [TokenKind K] {issue : AutomatonIssue K}
    (dead : issue ∈ builder.deadEnds) : issue.diagnostic.isFatal = false := by
  obtain ⟨noted, member, here⟩ := List.mem_flatten.mp dead
  obtain ⟨number, there, rfl⟩ := List.mem_mapIdx.mp member
  split at here
  · rw [List.mem_singleton.mp here]
    rfl
  · cases here

/-! ### Runs -/

variable [DecidableEq K]

theorem ofSteps_concat (steps : List (AutomatonStep K)) (step : AutomatonStep K) :
    ofSteps (steps ++ [step]) = (ofSteps steps).apply step := by
  simp [ofSteps]

/-- What is noted of steps, each noted in the builder that it is taken in. -/
def log (note : AutomatonBuilder K → AutomatonStep K → Option α) (builder : AutomatonBuilder K) :
    List (AutomatonStep K) → List α
  | [] => []
  | step :: rest => (note builder step).toList ++ log note (builder.apply step) rest

theorem log_append (note : AutomatonBuilder K → AutomatonStep K → Option α)
    (builder : AutomatonBuilder K) (steps more : List (AutomatonStep K)) :
    log note builder (steps ++ more) =
      log note builder steps ++ log note (steps.foldl apply builder) more := by
  induction steps generalizing builder with
  | nil => rfl
  | cons step steps ih => simp [log, ih]

theorem log_concat (note : AutomatonBuilder K → AutomatonStep K → Option α)
    (steps : List (AutomatonStep K)) (step : AutomatonStep K) :
    log note empty (steps ++ [step]) =
      log note empty steps ++ (note (ofSteps steps) step).toList := by
  simp [log_append, log, ofSteps]

theorem fatal_of_mem_issues [TokenKind K] {steps : List (AutomatonStep K)}
    {issue : AutomatonIssue K} (reported : issue ∈ (ofSteps steps).issues) :
    issue.diagnostic.isFatal = true := by
  induction steps using List.reverseRecOn with
  | nil => cases reported
  | append_singleton steps step ih =>
    rw [ofSteps_concat] at reported
    obtain same | ⟨last, current, refused, more⟩ := ((ofSteps steps).effect_apply step).issues
    · exact ih (same ▸ reported)
    · rw [more] at reported
      rcases List.mem_append.mp reported with old | new
      · exact ih old
      · exact List.mem_singleton.mp new ▸ refused.fatal

/-- An automaton is built just if no step went wrong, and its states are those of the builder. -/
theorem build_eq_some_iff [TokenKind K] {steps : List (AutomatonStep K)}
    {automaton : Automaton K} :
    (ofSteps steps).build.value = some automaton ↔
      (ofSteps steps).issues = [] ∧
        automaton = ⟨(ofSteps steps).states, (ofSteps steps).ignored,
          (ofSteps steps).ignoresLineEnds, (ofSteps steps).lineBreak⟩ := by
  rw [build, Build.ofValue_eq_some_iff, and_comm]
  -- A dead end is only warned of, so what counts is what the steps reported.
  refine and_congr_left fun _ => ⟨fun harmless => ?_, fun unblemished diagnostic noted => ?_⟩
  · refine List.eq_nil_iff_forall_not_mem.mpr fun issue reported => ?_
    have mild := harmless issue.diagnostic
      (List.mem_map_of_mem (List.mem_append_left _ reported))
    rw [fatal_of_mem_issues reported] at mild
    cases mild
  · rw [unblemished, List.nil_append] at noted
    obtain ⟨issue, dead, rfl⟩ := List.mem_map.mp noted
    exact mild_of_mem_deadEnds dead

end AutomatonBuilder

end Lookahead
