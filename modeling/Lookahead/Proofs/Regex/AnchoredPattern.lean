import Lookahead.Proofs.Regex.EnclosedPattern
import Lookahead.Proofs.Regex.StartCheck

/-!
# Patterns that are held to the start

A pattern in a group behind a sign for the start of the text stands for the expression of the
pattern behind a check for the start, and so it matches at the start what the pattern matches there.
This is said only of a pattern that is well formed on its own. Where it is not, the parenthesis in
front of it may be closed by one of its own.

Main statement: `Regex.find?_of_anchored`.
-/

namespace Lookahead

/-- The pattern in a group, behind a sign for the start of the text. -/
def Pattern.anchored (pattern : List Char) : List Char := "^(?:".toList ++ pattern ++ [')']

namespace Regex

/-! ### Programs of sequences -/

theorem addSequence_append (items others : List Regex) (program : Program) :
    addSequence (items ++ others) program = addSequence items (addSequence others program) := by
  induction items with
  | nil => rfl
  | cons item rest ih => rw [List.cons_append, addSequence, addSequence, ih]

theorem addSequence_parts (regex : Regex) (program : Program) :
    addSequence regex.parts program = regex.addProgram program := by
  cases regex <;> rfl

theorem addSequence_flatMap_parts (items : List Regex) (program : Program) :
    addSequence (items.flatMap parts) program = addSequence items program := by
  induction items with
  | nil => rfl
  | cons item rest ih =>
    rw [List.flatMap_cons, addSequence_append, addSequence_parts, ih, addSequence]

/-- Texts in a row have the program of one text. -/
theorem addSequence_prepend (part : Regex) (others : List Regex) (program : Program) :
    addSequence (prepend part others) program =
      part.addProgram (addSequence others program) := by
  unfold prepend
  split
  · rfl
  · simp only [addSequence, addProgram, List.foldr_append]
  · rfl

theorem addSequence_foldr_prepend (items : List Regex) (program : Program) :
    addSequence (items.foldr prepend []) program = addSequence items program := by
  induction items with
  | nil => rfl
  | cons item rest ih => rw [List.foldr_cons, addSequence_prepend, ih, addSequence]

/-- A sequence has the program of its items one after the other, however it is simplified. -/
theorem addProgram_sequence (items : List Regex) (program : Program) :
    (sequence items).addProgram program = addSequence items program := by
  have parted : addSequence ((items.flatMap parts).foldr prepend []) program =
      addSequence items program := by
    rw [addSequence_foldr_prepend, addSequence_flatMap_parts]
  unfold sequence
  split
  next none =>
    rw [none] at parted
    exact parted
  next only single =>
    rw [single] at parted
    exact parted
  next => exact parted

/-! ### A check in front of an expression -/

/-- A check stays in front of a sequence. -/
theorem sequence_check (assertion : Assertion) (regex : Regex) :
    sequence [.check assertion, regex] = .check assertion ∨
      ∃ rest, sequence [.check assertion, regex] = .concat (.check assertion :: rest) := by
  have parted : ([.check assertion, regex].flatMap parts).foldr prepend [] =
      .check assertion :: ([regex].flatMap parts).foldr prepend [] := rfl
  unfold sequence
  rw [parted]
  cases ([regex].flatMap parts).foldr prepend [] with
  | nil => exact Or.inl rfl
  | cons first rest => exact Or.inr ⟨first :: rest, rfl⟩

theorem isAnchored_startCheck (regex : Regex) :
    (choice [sequence [.check .textStart, regex]]).isAnchored = true := by
  rcases sequence_check .textStart regex with single | ⟨rest, several⟩
  · rw [single]
    rfl
  · rw [several]
    rfl

theorem program_startCheck (regex : Regex) :
    (choice [sequence [.check .textStart, regex]]).program = regex.program.startCheck := by
  have alone : choice [sequence [.check .textStart, regex]] =
      sequence [.check .textStart, regex] := by
    rcases sequence_check .textStart regex with single | ⟨rest, several⟩
    · rw [single]
      rfl
    · rw [several]
      rfl
  rw [alone, program, addProgram_sequence]
  rfl

end Regex

/-! ### Reading the pattern -/

namespace Pattern

/-- Behind the sign and the opening of the group the pattern is read. -/
theorem readAlternatives_opened (pattern : List Char) (bound : Nat) :
    readAlternatives (bound + 2) [] { text := anchored pattern } =
      match readAlternatives bound [] { text := pattern ++ [')'] } with
      | some (alternatives, behind) =>
        match behind.text with
        | ')' :: rest =>
          readAlternatives bound
            [{ expression := group none (oneOf alternatives) },
              { expression := { regex := .check .textStart } }]
            { behind with text := rest, flags := {} }
        | _ => none
      | none => none := rfl

/-- What is read of a pattern is read of it as the contents of a group. -/
theorem readAlternatives_anchored {pattern : List Char} {options : List Expression} {state : State}
    (read : readAlternatives (pattern.length + 1) [] { text := pattern } = some (options, state))
    (whole : state.text = []) :
    readAlternatives ((anchored pattern).length + 1) [] { text := anchored pattern } = none ∨
      ∃ behind, readAlternatives ((anchored pattern).length + 1) []
          { text := anchored pattern } =
        some ([gather [{ expression := group none (oneOf options) },
          { expression := { regex := .check .textStart } }]], behind) := by
  have length : (anchored pattern).length + 1 = pattern.length + 6 := by
    simp [anchored]
  obtain ⟨behind, inside, encloses⟩ := readAlternatives_agrees
    (show pattern.length + 1 ≤ pattern.length + 4 by omega) []
    (.behind pattern {} 0 []) options state read
  rw [length, readAlternatives_opened, inside]
  cases encloses with
  | passed =>
    -- A comment at the end of the pattern goes on over the parenthesis, so the group stays open.
    exact Or.inl rfl
  | behind text flags groups names =>
    obtain rfl : text = [] := whole
    exact Or.inr ⟨_, rfl⟩

end Pattern

namespace Regex

variable {pattern : List Char} {regex anchored : Regex}

/-- The expression of the pattern that is held to the start is that of the pattern, behind a check
for the start. -/
theorem eq_of_anchored (own : ofPattern? pattern = some regex)
    (held : ofPattern? (Pattern.anchored pattern) = some anchored) :
    anchored = choice [sequence [.check .textStart, regex]] := by
  unfold ofPattern? at own held
  cases read : Pattern.readAlternatives (pattern.length + 1) [] { text := pattern } with
  | none =>
    rw [read] at own
    cases own
  | some answer =>
    obtain ⟨options, state⟩ := answer
    rw [read] at own
    dsimp only at own
    split at own
    next allowed =>
      cases own
      have whole : state.text = [] := by
        simp only [Bool.and_eq_true, List.isEmpty_iff] at allowed
        exact allowed.1.1
      rcases Pattern.readAlternatives_anchored read whole with none | ⟨behind, found⟩
      · rw [none] at held
        cases held
      · rw [found] at held
        dsimp only at held
        split at held
        · cases held
          rfl
        · cases held
    next => cases own

/-- Held to the start, the pattern matches what it matches there by itself, and nothing else. -/
theorem find?_of_anchored (own : ofPattern? pattern = some regex)
    (held : ofPattern? (Pattern.anchored pattern) = some anchored) (text : List Char) :
    anchored.searcher.find? text = (regex.program.matchLength? none text).map (0, ·) := by
  obtain rfl := eq_of_anchored own held
  rw [Searcher.find?_of_anchored (isAnchored_startCheck regex), searcher, program_startCheck,
    regex.linked_program.matchLength?_startCheck]

end Regex

end Lookahead
