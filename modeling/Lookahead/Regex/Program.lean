import Lookahead.Regex.Basic

/-!
# Programs that match regular expressions

A regular expression is compiled to a program. The parts of an expression are compiled from the
last one to the first one, so that the place of the instruction behind a part is known; only the
place where a loop goes back to is filled in later. A branch names the instruction that is preferred
first.
-/

namespace Lookahead

/-- A step of a program. The numbers are places of instructions. -/
inductive Instruction where
  /-- There is a match. -/
  | done
  /-- To read a character of the set. -/
  | read (set : CharSet) (next : Nat)
  /-- To go on if the condition holds. -/
  | check (assertion : Assertion) (next : Nat)
  /-- To go on in one of two ways. -/
  | branch (first second : Nat)
  deriving DecidableEq, Repr

/-- The instructions of a program as far as it is compiled, and the one to start with. -/
structure Program where
  code : Array Instruction
  start : Nat
  deriving DecidableEq, Repr

namespace Program

/-- The program with an instruction in front. -/
def add (instruction : Instruction) : Program → Program
  | ⟨code, _⟩ =>
    let place := code.size
    ⟨code.push instruction, place⟩

/-- The branch to `more` or `others`, to `more` first if it is greedy. -/
def branchTo (greedy : Bool) (more others : Nat) : Instruction :=
  if greedy then .branch more others else .branch others more

/-- The program with a part in front `count` times in a row. -/
def addCopies (part : Program → Program) : Nat → Program → Program
  | 0, program => program
  | count + 1, program => addCopies part count (part program)

/-- The program that starts with the part, or with the instruction `behind`. -/
def addOption (part : Program → Program) (greedy : Bool) (behind : Nat) (program : Program) :
    Program :=
  match part program with
  | ⟨code, start⟩ => add (branchTo greedy start behind) ⟨code, start⟩

/-- The program with a part in front, and behind it the choice to go back to it or on. -/
def addLoop (part : Program → Program) (greedy : Bool) : Program → Program
  | ⟨code, behind⟩ =>
    let choice := code.size
    -- The choice is put in place of this instruction when it is known where the part starts.
    match part ⟨code.push (.branch behind behind), choice⟩ with
    | ⟨code, start⟩ => ⟨code.setIfInBounds choice (branchTo greedy start behind), start⟩

/-- The program with a part any number of times in front. If the part can be passed over without a
character, the loop around it can be left out as a whole. -/
def addAny (takesChar : Bool) (part : Program → Program) (greedy : Bool) : Program → Program
  | ⟨code, behind⟩ =>
    let choice := code.size
    if takesChar then
      match addLoop part greedy ⟨code, behind⟩ with
      | ⟨code, _⟩ => ⟨code, choice⟩
    else addOption (addLoop part greedy) greedy behind ⟨code, behind⟩

/-- The program with a part in front at least `low` and at most `high` times. -/
def addRepeated (takesChar : Bool) (part : Program → Program) (low : Nat) (high : Option Nat)
    (greedy : Bool) : Program → Program
  | ⟨code, behind⟩ =>
    match low, high with
    | 0, none => addAny takesChar part greedy ⟨code, behind⟩
    | low + 1, none => addCopies part low (addLoop part greedy ⟨code, behind⟩)
    | low, some high =>
      -- Each part that is not needed can be left out with all behind it.
      addCopies part low
        (addCopies (addOption part greedy behind) (high - low) ⟨code, behind⟩)

end Program

namespace Regex

mutual

/-- The program with the expression in front. -/
def addProgram : Regex → Program → Program
  | .empty, program => program
  | .literal text, program =>
    text.foldr (fun c (program : Program) => program.add (.read (.single c) program.start))
      program
  | .oneOf set, program => program.add (.read set program.start)
  | .check assertion, program => program.add (.check assertion program.start)
  | .captured _ body, program => addProgram body program
  | .repeated body low high greedy, program =>
    Program.addRepeated body.takesChar (addProgram body ·) low high greedy program
  | .concat items, program => addSequence items program
  | .alternatives items, program => addChoice items program.start program

/-- The program with the expressions in front, one after the other. -/
def addSequence : List Regex → Program → Program
  | [], program => program
  | item :: rest, program => addProgram item (addSequence rest program)

/-- The program with one of the expressions in front of the instruction `behind`. -/
def addChoice : List Regex → Nat → Program → Program
  | [], _, program => program
  | [only], behind, ⟨code, _⟩ => addProgram only ⟨code, behind⟩
  | item :: rest, behind, program =>
    match addChoice rest behind program with
    | ⟨code, others⟩ =>
      match addProgram item ⟨code, behind⟩ with
      | ⟨code, first⟩ => Program.add (.branch first others) ⟨code, first⟩

end

/-- The program that matches the expression. -/
def program (regex : Regex) : Program := regex.addProgram ⟨#[.done], 0⟩

end Regex

end Lookahead
