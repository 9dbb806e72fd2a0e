import Lookahead.Build
import Lookahead.Lexer.Automaton.Basic

/-!
# Building automata

A builder stands in a current state. A transition leads from there to a new state, or to a state
that was marked before, and makes its target the current state. After a mark that is not known
there is no current state, and every step that needs one is passed over until the next jump to a
known mark: one mistake is reported once.
-/

namespace Lookahead

/-- What can be wrong with an automaton. A state is named by its title. -/
inductive AutomatonIssue (K : Type) where
  /-- A jump or a transition to a mark that no state has. -/
  | unknownMark (name : String)
  /-- A mark that another state has already. -/
  | duplicateMark (name : String)
  /-- A terminal state that should end with a second kind. -/
  | secondEnding (state : String) (first second : K)
  /-- A callback on a state that is not terminal. -/
  | callbackWithoutEnding (state : String)
  /-- A state that is not terminal and has no way out. -/
  | deadEnd (state : String)
  deriving DecidableEq, Repr

/-- How an issue is reported. -/
def AutomatonIssue.diagnostic {K : Type} [TokenKind K] : AutomatonIssue K → Diagnostic
  | .unknownMark name => ⟨.fatal, .unknownState, "no state is marked `" ++ name ++ "`", some name⟩
  | .duplicateMark name =>
    ⟨.fatal, .duplicateState, "state `" ++ name ++ "` is already defined", some name⟩
  | .secondEnding state first second =>
    ⟨.fatal, .duplicateEnd, "state already ends with " ++ TokenKind.label first ++
      ", cannot also end with " ++ TokenKind.label second, some state⟩
  | .callbackWithoutEnding state =>
    ⟨.fatal, .unknownState, "callback on a state that is not terminal", some state⟩
  | .deadEnd state =>
    ⟨.warning, .deadEndState, "state has no transitions and is not terminal", some state⟩

/-- An automaton in the making. -/
structure AutomatonBuilder (K : Type) where
  states : List (State K) := [.fresh]
  /-- The states that were marked, by their marks. -/
  marks : List (String × Nat) := []
  /-- The state that the next step starts from, if the last mark asked for was known. -/
  current : Option Nat := some 0
  ignoresBlanks : Bool := false
  /-- The blanks to pass over; none means spaces and tabs. -/
  blanks : List Char := []
  ignoresLineEnds : Bool := false
  lineBreak : Char := '\n'
  issues : List (AutomatonIssue K) := []

namespace AutomatonBuilder

variable {K : Type}

/-- A builder with one state, which is current. -/
def empty : AutomatonBuilder K := {}

/-- Notes an issue. -/
def report (builder : AutomatonBuilder K) (issue : AutomatonIssue K) : AutomatonBuilder K :=
  { builder with issues := builder.issues ++ [issue] }

/-- The title of the state `number`. -/
def title (builder : AutomatonBuilder K) (number : Nat) : String :=
  (builder.states[number]?.getD .fresh).title number

/-- Passes over blanks between tokens. -/
def ignoreBlanks (builder : AutomatonBuilder K) : AutomatonBuilder K :=
  { builder with ignoresBlanks := true }

/-- Names a blank. -/
def addBlank (builder : AutomatonBuilder K) (c : Char) : AutomatonBuilder K :=
  if builder.blanks.contains c then builder
  else { builder with blanks := builder.blanks ++ [c] }

/-- Passes over line breaks and carriage returns between tokens. -/
def ignoreLineEnds (builder : AutomatonBuilder K) : AutomatonBuilder K :=
  { builder with ignoresLineEnds := true }

/-- Makes `c` the character that ends a line. -/
def setLineBreak (builder : AutomatonBuilder K) (c : Char) : AutomatonBuilder K :=
  { builder with lineBreak := c }

/-- Marks the current state with a name. -/
def mark (builder : AutomatonBuilder K) (name : String) : AutomatonBuilder K :=
  match builder.current with
  | none => builder
  | some current =>
    let states := builder.states.modify current fun state => { state with name := some name }
    match builder.marks.lookup name with
    | some existing =>
      if existing = current then { builder with states } else builder.report (.duplicateMark name)
    | none => { builder with states, marks := builder.marks ++ [(name, current)] }

/-- Makes the state marked `name` current. -/
def goto (builder : AutomatonBuilder K) (name : String) : AutomatonBuilder K :=
  match builder.marks.lookup name with
  | some number => { builder with current := some number }
  | none => { builder.report (.unknownMark name) with current := none }

/-- Puts a transition in front of the first one whose test is less specific. -/
def insertTransition (transition : Transition) : List Transition → List Transition
  | [] => [transition]
  | first :: rest =>
    if transition.test.rank < first.test.rank then transition :: first :: rest
    else first :: insertTransition transition rest

/-- Adds a transition from the state `source` to the state `target`, which becomes current. -/
def connect (builder : AutomatonBuilder K) (source : Nat) (test : CharTest) (target : Nat) :
    AutomatonBuilder K :=
  { builder with
    states := builder.states.modify source fun state =>
      { state with transitions := insertTransition ⟨test, target⟩ state.transitions }
    current := some target }

/-- Adds a transition from the current state to a new state. -/
def step (builder : AutomatonBuilder K) (test : CharTest) : AutomatonBuilder K :=
  match builder.current with
  | none => builder
  | some current =>
    { builder with states := builder.states ++ [State.fresh] }.connect current test
      builder.states.length

/-- Adds a transition from the current state to the state marked `name`. -/
def stepTo (builder : AutomatonBuilder K) (test : CharTest) (name : String) :
    AutomatonBuilder K :=
  match builder.current with
  | none => builder
  | some current =>
    match builder.marks.lookup name with
    | some target => builder.connect current test target
    | none => { builder.report (.unknownMark name) with current := none }

/-- Gives the state `number` an ending. -/
def setEnding (builder : AutomatonBuilder K) (number : Nat) (ending : Ending K) :
    AutomatonBuilder K :=
  { builder with
    states := builder.states.modify number fun state => { state with ending := some ending } }

/-- Makes the current state terminal. -/
def finish [DecidableEq K] (builder : AutomatonBuilder K) (kind : K) (skipped : Bool) :
    AutomatonBuilder K :=
  match builder.current with
  | none => builder
  | some current =>
    match builder.states[current]?.bind (·.ending) with
    | some existing =>
      if existing.kind = kind then builder.setEnding current ⟨kind, skipped, none⟩
      else builder.report (.secondEnding (builder.title current) existing.kind kind)
    | none => builder.setEnding current ⟨kind, skipped, none⟩

/-- Attaches a change of tokens to the current state, which must be terminal. -/
def callback (builder : AutomatonBuilder K) (change : Token K → Token K) :
    AutomatonBuilder K :=
  match builder.current with
  | none => builder
  | some current =>
    match builder.states[current]?.bind (·.ending) with
    | some ending => builder.setEnding current { ending with callback := some change }
    | none => builder.report (.callbackWithoutEnding (builder.title current))

/-- The states that are not terminal and have no way out. -/
def deadEnds (builder : AutomatonBuilder K) : List (AutomatonIssue K) :=
  (builder.states.mapIdx fun number state =>
    if state.transitions.isEmpty && state.ending.isNone then
      [AutomatonIssue.deadEnd (state.title number)]
    else []).flatten

/-- The characters to pass over between tokens, line ends apart. -/
def ignored (builder : AutomatonBuilder K) : List Char :=
  if !builder.ignoresBlanks then []
  else if builder.blanks.isEmpty then [' ', '\t']
  else builder.blanks

/-- The automaton, unless a step went wrong. -/
def build [TokenKind K] (builder : AutomatonBuilder K) : Build (Automaton K) :=
  .ofValue ⟨builder.states, builder.ignored, builder.ignoresLineEnds, builder.lineBreak⟩
    ((builder.issues ++ builder.deadEnds).map (·.diagnostic))

end AutomatonBuilder

/-- One step of building an automaton. -/
inductive AutomatonStep (K : Type) where
  | ignoreBlanks
  | addBlank (c : Char)
  | ignoreLineEnds
  | setLineBreak (c : Char)
  | mark (name : String)
  | goto (name : String)
  | step (test : CharTest)
  | stepTo (test : CharTest) (name : String)
  | finish (kind : K) (skipped : Bool)
  | callback (change : Token K → Token K)

/-- The builder after one more step. -/
def AutomatonBuilder.apply {K : Type} [DecidableEq K] (builder : AutomatonBuilder K) :
    AutomatonStep K → AutomatonBuilder K
  | .ignoreBlanks => builder.ignoreBlanks
  | .addBlank c => builder.addBlank c
  | .ignoreLineEnds => builder.ignoreLineEnds
  | .setLineBreak c => builder.setLineBreak c
  | .mark name => builder.mark name
  | .goto name => builder.goto name
  | .step test => builder.step test
  | .stepTo test name => builder.stepTo test name
  | .finish kind skipped => builder.finish kind skipped
  | .callback change => builder.callback change

/-- The builder after the given steps. -/
def AutomatonBuilder.ofSteps {K : Type} [DecidableEq K] (steps : List (AutomatonStep K)) :
    AutomatonBuilder K :=
  steps.foldl AutomatonBuilder.apply .empty

end Lookahead
