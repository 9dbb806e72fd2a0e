/-!
# Counters

The numbers in a position are counters of 64 bits. What becomes of a sum that a counter cannot hold
depends on how the program was built: the counter begins again at zero, or the program stops. Where
every sum can be held there is no difference, and a counter is as good as a number.
-/

namespace Lookahead

/-- What stops a program that checks its counters: a counter cannot hold a sum. -/
inductive Overflow where
  | full
  deriving DecidableEq, Repr

/-- What becomes of a sum that a counter cannot hold. -/
inductive Counting where
  /-- There is none, since every number is a counter. -/
  | unlimited
  /-- The counter begins again at zero. -/
  | wrapping
  /-- The program stops. -/
  | checked
  deriving DecidableEq, Repr

namespace Counting

/-- All counters of 64 bits are less. -/
def limit : Nat := UInt64.size

/-- A counter can hold the number. -/
def Holds (counting : Counting) (number : Nat) : Prop :=
  counting = .unlimited ∨ number < limit

instance (counting : Counting) (number : Nat) : Decidable (counting.Holds number) :=
  inferInstanceAs (Decidable (_ ∨ _))

/-- The sum of a counter and some more. -/
def add (counting : Counting) (count more : Nat) : Except Overflow Nat :=
  match counting with
  | .unlimited => .ok (count + more)
  | .wrapping => .ok ((count + more) % limit)
  | .checked => if count + more < limit then .ok (count + more) else .error .full

variable {counting : Counting} {count more : Nat}

theorem Holds.mono {number less : Nat} (holds : counting.Holds number) (within : less ≤ number) :
    counting.Holds less :=
  holds.imp_right (Nat.lt_of_le_of_lt within)

theorem add_eq (holds : counting.Holds (count + more)) :
    counting.add count more = .ok (count + more) := by
  cases counting with
  | unlimited => rfl
  | wrapping =>
    obtain unlimited | less := holds
    · cases unlimited
    · rw [add, Nat.mod_eq_of_lt less]
  | checked =>
    obtain unlimited | less := holds
    · cases unlimited
    · rw [add, if_pos less]

theorem of_add_eq_error {overflow : Overflow}
    (stopped : counting.add count more = .error overflow) :
    counting = .checked ∧ ¬ counting.Holds (count + more) := by
  have tight : ¬ counting.Holds (count + more) := by
    intro holds
    rw [add_eq holds] at stopped
    cases stopped
  cases counting with
  | unlimited => cases stopped
  | wrapping => cases stopped
  | checked => exact ⟨rfl, tight⟩

end Counting

end Lookahead
