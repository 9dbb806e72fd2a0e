import Lookahead.Regex.Match

/-!
# Programs lead nowhere else

Every instruction of a compiled program leads to instructions of the same program. Each way of
putting a part in front of a program keeps this and leaves the instructions behind the part in
their places, so it holds of the programs of all expressions.

Main statement: `Regex.linked_program`.
-/

namespace Lookahead

/-- All that the instruction leads to is among the first `size` places. -/
def Instruction.Below (size : Nat) : Instruction → Prop
  | .done => True
  | .read _ next => next < size
  | .check _ next => next < size
  | .branch first second => first < size ∧ second < size

theorem Instruction.Below.mono {size larger : Nat} {instruction : Instruction}
    (below : instruction.Below size) (le : size ≤ larger) : instruction.Below larger := by
  cases instruction with
  | done => trivial
  | read set next => exact Nat.lt_of_lt_of_le below le
  | check assertion next => exact Nat.lt_of_lt_of_le below le
  | branch first second =>
    exact ⟨Nat.lt_of_lt_of_le below.1 le, Nat.lt_of_lt_of_le below.2 le⟩

namespace Program

/-- The program starts with one of its instructions, and each leads to others of them. -/
structure Linked (program : Program) : Prop where
  start : program.start < program.code.size
  code : ∀ (place : Nat) (instruction : Instruction), program.code[place]? = some instruction →
    instruction.Below program.code.size

/-- Put in front of a linked program, the part makes a linked program that is not smaller. -/
def Keeps (part : Program → Program) : Prop :=
  ∀ program, program.Linked →
    (part program).Linked ∧ program.code.size ≤ (part program).code.size

variable {program : Program} {part : Program → Program}

/-! ### Putting parts in front -/

theorem size_add (instruction : Instruction) (program : Program) :
    (program.add instruction).code.size = program.code.size + 1 := by
  simp [add]

theorem Linked.add (linked : program.Linked) {instruction : Instruction}
    (below : instruction.Below (program.code.size + 1)) : (program.add instruction).Linked := by
  refine ⟨?_, fun place other found => ?_⟩
  · simp [Program.add]
  · rw [size_add]
    simp only [Program.add, Array.getElem?_push] at found
    split at found
    · cases found
      exact below
    · exact (linked.code place other found).mono (Nat.le_succ _)

/-- A program may start with any of its instructions. -/
theorem Linked.startAt (linked : program.Linked) {start : Nat}
    (inside : start < program.code.size) : Linked ⟨program.code, start⟩ :=
  ⟨inside, linked.code⟩

theorem below_branchTo {size more others : Nat} (greedy : Bool) (first : more < size)
    (second : others < size) : (branchTo greedy more others).Below size := by
  cases greedy
  · exact ⟨second, first⟩
  · exact ⟨first, second⟩

theorem keeps_read (set : CharSet) :
    Keeps fun program => program.add (.read set program.start) := fun program linked =>
  ⟨linked.add (Nat.lt_succ_of_lt linked.start), by simp [size_add]⟩

theorem keeps_addCopies (keeps : Keeps part) (count : Nat) : Keeps (addCopies part count) := by
  intro program linked
  induction count generalizing program with
  | zero => exact ⟨linked, Nat.le_refl _⟩
  | succ count ih =>
    obtain ⟨linked', larger⟩ := keeps program linked
    obtain ⟨whole, largest⟩ := ih (part program) linked'
    exact ⟨whole, Nat.le_trans larger largest⟩

theorem keeps_addOption (keeps : Keeps part) (greedy : Bool) {behind : Nat}
    (linked : program.Linked) (inside : behind < program.code.size) :
    (addOption part greedy behind program).Linked ∧
      program.code.size < (addOption part greedy behind program).code.size := by
  obtain ⟨linked', larger⟩ := keeps program linked
  have below : (branchTo greedy (part program).start behind).Below
      ((part program).code.size + 1) :=
    below_branchTo greedy (Nat.lt_succ_of_lt linked'.start) (by omega)
  refine ⟨linked'.add below, ?_⟩
  rw [show (addOption part greedy behind program).code.size = (part program).code.size + 1 from
    size_add _ _]
  omega

theorem keeps_addLoop (keeps : Keeps part) (greedy : Bool) (linked : program.Linked) :
    (addLoop part greedy program).Linked ∧
      program.code.size < (addLoop part greedy program).code.size := by
  obtain ⟨linked', larger⟩ := keeps (program.add (.branch program.start program.start))
    (linked.add ⟨Nat.lt_succ_of_lt linked.start, Nat.lt_succ_of_lt linked.start⟩)
  rw [size_add] at larger
  -- A branch is put in place for the part to lead to, and what it leads to is set afterwards.
  have same : addLoop part greedy program =
      let inner := part (program.add (.branch program.start program.start))
      ⟨inner.code.setIfInBounds program.code.size (branchTo greedy inner.start program.start),
        inner.start⟩ := rfl
  rw [same]
  refine ⟨⟨?_, fun place other found => ?_⟩, ?_⟩
  · simpa using linked'.start
  · rw [Array.size_setIfInBounds]
    rw [Array.getElem?_setIfInBounds] at found
    have behind := linked.start
    split at found
    · split at found
      · cases found
        exact below_branchTo greedy linked'.start (by omega)
      · cases found
    · exact linked'.code place other found
  · simp only [Array.size_setIfInBounds]
    omega

theorem keeps_addAny (keeps : Keeps part) (takesChar greedy : Bool) :
    Keeps (addAny takesChar part greedy) := by
  intro program linked
  have loop {program : Program} (linked : program.Linked) :=
    keeps_addLoop keeps greedy linked
  obtain ⟨linked', larger⟩ := loop linked
  cases takesChar with
  | true =>
    -- The branch of the loop stands where the program ended before, so it is inside.
    exact ⟨linked'.startAt larger, Nat.le_of_lt larger⟩
  | false =>
    have keepsLoop : Keeps (addLoop part greedy) := fun program linked =>
      ⟨(loop linked).1, Nat.le_of_lt (loop linked).2⟩
    obtain ⟨whole, largest⟩ := keeps_addOption keepsLoop greedy linked linked.start
    exact ⟨whole, Nat.le_of_lt largest⟩

/-- Each part that may be left out leads on to the place `behind` that is there already. -/
theorem keeps_addOptions (keeps : Keeps part) (greedy : Bool) (count : Nat) {behind : Nat}
    (linked : program.Linked) (inside : behind < program.code.size) :
    (addCopies (addOption part greedy behind) count program).Linked ∧
      program.code.size ≤ (addCopies (addOption part greedy behind) count program).code.size := by
  induction count generalizing program with
  | zero => exact ⟨linked, Nat.le_refl _⟩
  | succ count ih =>
    obtain ⟨linked', larger⟩ := keeps_addOption keeps greedy linked inside
    obtain ⟨whole, largest⟩ := ih linked' (Nat.lt_trans inside larger)
    exact ⟨whole, Nat.le_trans (Nat.le_of_lt larger) largest⟩

theorem keeps_addRepeated (keeps : Keeps part) (takesChar : Bool) (low : Nat) (high : Option Nat)
    (greedy : Bool) : Keeps (addRepeated takesChar part low high greedy) := by
  intro program linked
  cases high with
  | some high =>
    obtain ⟨linked', larger⟩ :=
      keeps_addOptions keeps greedy (high - low) linked linked.start
    obtain ⟨whole, largest⟩ := keeps_addCopies keeps low _ linked'
    have same : addRepeated takesChar part low (some high) greedy program =
        addCopies part low (addCopies (addOption part greedy program.start) (high - low)
          program) := by
      cases low <;> rfl
    rw [same]
    exact ⟨whole, Nat.le_trans larger largest⟩
  | none =>
    cases low with
    | zero => exact keeps_addAny keeps takesChar greedy program linked
    | succ low =>
      obtain ⟨linked', larger⟩ := keeps_addLoop keeps greedy linked
      obtain ⟨whole, largest⟩ := keeps_addCopies keeps low _ linked'
      exact ⟨whole, Nat.le_trans (Nat.le_of_lt larger) largest⟩

end Program

namespace Regex

open Program

/-- Induction on an expression, with the items of a sequence or of a choice at once. -/
@[induction_eliminator]
theorem induction {motive : Regex → Prop} (empty : motive .empty)
    (literal : ∀ text, motive (.literal text)) (oneOf : ∀ set, motive (.oneOf set))
    (check : ∀ assertion, motive (.check assertion))
    (captured : ∀ number body, motive body → motive (.captured number body))
    (repeated : ∀ body low high greedy, motive body → motive (.repeated body low high greedy))
    (concat : ∀ items, (∀ item ∈ items, motive item) → motive (.concat items))
    (alternatives : ∀ items, (∀ item ∈ items, motive item) → motive (.alternatives items))
    (regex : Regex) : motive regex :=
  @Regex.rec motive (fun items => ∀ item ∈ items, motive item) empty literal oneOf check captured
    repeated concat alternatives (by simp)
    (fun _ _ first others => List.forall_mem_cons.mpr ⟨first, others⟩) regex

theorem keeps_literal (text : List Char) : Keeps (Regex.literal text).addProgram := by
  intro program linked
  simp only [addProgram]
  induction text with
  | nil => exact ⟨linked, Nat.le_refl _⟩
  | cons c rest ih =>
    obtain ⟨linked', larger⟩ := keeps_read (.single c) _ ih.1
    exact ⟨linked', Nat.le_trans ih.2 larger⟩

theorem keeps_addSequence {items : List Regex} (each : ∀ item ∈ items, Keeps item.addProgram) :
    Keeps (addSequence items) := by
  intro program linked
  induction items with
  | nil => exact ⟨linked, Nat.le_refl _⟩
  | cons item rest ih =>
    obtain ⟨first, others⟩ := List.forall_mem_cons.mp each
    obtain ⟨linked', larger⟩ := ih others
    obtain ⟨whole, largest⟩ := first _ linked'
    exact ⟨whole, Nat.le_trans larger largest⟩

theorem keeps_addChoice {items : List Regex} (each : ∀ item ∈ items, Keeps item.addProgram)
    {program : Program} {behind : Nat} (linked : program.Linked)
    (inside : behind < program.code.size) :
    (addChoice items behind program).Linked ∧
      program.code.size ≤ (addChoice items behind program).code.size := by
  induction items with
  | nil => exact ⟨linked, Nat.le_refl _⟩
  | cons item rest ih =>
    obtain ⟨first, others⟩ := List.forall_mem_cons.mp each
    cases rest with
    | nil => exact first _ (linked.startAt inside)
    | cons second rest =>
      -- The others are compiled first, and then the item in front of the same place.
      obtain ⟨linked', larger⟩ := ih others
      obtain ⟨whole, largest⟩ := first _ (linked'.startAt (Nat.lt_of_lt_of_le inside larger))
      have entry := linked'.start
      rw [addChoice]
      · refine ⟨whole.add ⟨Nat.lt_succ_of_lt whole.start, ?_⟩, ?_⟩
        · dsimp only at largest ⊢
          omega
        · rw [size_add]
          dsimp only at largest ⊢
          omega
      · simp

theorem keeps_addProgram (regex : Regex) : Keeps regex.addProgram := by
  induction regex with
  | empty => exact fun program linked => ⟨linked, Nat.le_refl _⟩
  | literal text => exact keeps_literal text
  | oneOf set => exact keeps_read set
  | check assertion =>
    exact fun program linked =>
      ⟨linked.add (Nat.lt_succ_of_lt linked.start), by simp [addProgram, size_add]⟩
  | captured number body ih => exact ih
  | repeated body low high greedy ih =>
    exact keeps_addRepeated ih body.takesChar low high greedy
  | concat items ih => exact keeps_addSequence ih
  | alternatives items ih => exact fun program linked => keeps_addChoice ih linked linked.start

theorem linked_program (regex : Regex) : regex.program.Linked := by
  refine (keeps_addProgram regex ⟨#[.done], 0⟩ ⟨Nat.zero_lt_one, fun place other found => ?_⟩).1
  obtain rfl := Array.mem_singleton.mp (Array.mem_of_getElem? found)
  trivial

end Regex

end Lookahead
