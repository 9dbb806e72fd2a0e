import Lookahead.Proofs.Grammar.EmptyWords
import Mathlib.Logic.Function.Iterate

/-!
# Nullability is the least fixed point

A sweep over the rules adds names to those that are known or leaves the list as it is, and where
it adds none there is nothing to be added any more. So the sweeps, made without a bound for as long
as they find something, come to an end, and the bound on their number is never felt. What they end
with is a fixed point, and the least one: a rule is in it on account of a derivation of the empty
word. Rules that always need one another are outside of it.

Main statement: `Analysis.nullable_leastFixedPoint`.
-/

namespace Lookahead

namespace Production

variable {K : Type} {productions : List (Production K)} {known : List String}

/-! ### The sweeps come to an end -/

theorem sweepNullable_grows (productions : List (Production K)) (known : List String) :
    ∃ added, sweepNullable productions known = known ++ added :=
  foldl_noteNullable_grows productions (names productions) known

/-- A sweep that finds nothing new changes nothing. -/
theorem sweepNullable_of_length_le
    (short : (sweepNullable productions known).length ≤ known.length) :
    sweepNullable productions known = known := by
  obtain ⟨added, swept⟩ := sweepNullable_grows productions known
  rw [swept, List.length_append] at short
  have none : added = [] := List.eq_nil_of_length_eq_zero (by omega)
  rw [swept, none, List.append_nil]

theorem Supported.length_le (supported : Supported productions known) :
    known.length ≤ (names productions).length :=
  (List.subperm_of_subset supported.nodup supported.named).length_le

theorem Supported.sweep (supported : Supported productions known) :
    Supported productions (sweepNullable productions known) :=
  supported.foldl (List.Subset.refl _)

/-- So many sweeps find a rule each, and the next one finds nothing and ends the search with the
list `found`. -/
structure SweepsTo (productions : List (Production K)) (known : List String) (count : Nat)
    (found : List String) : Prop where
  reaches : (sweepNullable productions)^[count] known = found
  settled : sweepNullable productions found = found
  finding : ∀ earlier < count, ((sweepNullable productions)^[earlier] known).length <
    ((sweepNullable productions)^[earlier + 1] known).length

theorem SweepsTo.here (settled : sweepNullable productions known = known) :
    SweepsTo productions known 0 known :=
  ⟨rfl, settled, by simp⟩

theorem SweepsTo.step {count : Nat} {found : List String}
    (longer : known.length < (sweepNullable productions known).length)
    (onward : SweepsTo productions (sweepNullable productions known) count found) :
    SweepsTo productions known (count + 1) found where
  reaches := onward.reaches
  settled := onward.settled
  finding earlier before := by
    cases earlier with
    | zero => exact longer
    | succ earlier => exact onward.finding earlier (by omega)

/-- A bound that covers the rules that are not known is not felt. -/
theorem nullableFrom_sweepsTo {bound : Nat} (supported : Supported productions known)
    (enough : (names productions).length ≤ known.length + bound) :
    ∃ count ≤ bound, SweepsTo productions known count (nullableFrom productions bound known) := by
  induction bound generalizing known with
  | zero =>
    -- All rules are known, so a sweep has none to add.
    have most := supported.sweep.length_le
    exact ⟨0, le_rfl, .here (sweepNullable_of_length_le (by omega))⟩
  | succ bound ih =>
    obtain ⟨added, swept⟩ := sweepNullable_grows productions known
    simp only [nullableFrom]
    split
    next same => exact ⟨0, Nat.zero_le _, .here (sweepNullable_of_length_le same.le)⟩
    next found =>
      have longer : known.length < (sweepNullable productions known).length := by
        rw [swept, List.length_append] at found ⊢
        omega
      obtain ⟨count, few, sweeps⟩ := ih supported.sweep (by omega)
      exact ⟨count + 1, by omega, sweeps.step longer⟩

/-! ### Circles of rules -/

/-- No alternative of a rule of the circle can match nothing, even if all rules outside can: each
one needs a rule of the circle, or it needs a token. -/
def Circular (productions : List (Production K)) (circle : String → Bool) : Prop :=
  ∀ name, circle name = true → ∀ clauses ∈ alternatives productions name,
    Clause.nullableAll (fun other => !circle other) clauses = false

end Production

namespace Analysis

variable {K : Type} {productions : List (Production K)}

/-- Whatever is closed under "a rule with an alternative of nullable clauses is nullable" holds of
every rule that is found. -/
theorem ruleNullable_le {closed : String → Bool}
    (step : ∀ name, ∀ clauses ∈ Production.alternatives productions name,
      Clause.nullableAll closed clauses = true → closed name = true)
    {name : String} (nothing : (ofProductions productions).ruleNullable name = true) :
    closed name = true := by
  have derives := derives_nil_of_ruleNullable productions name nothing
  have empties := Clause.nullable_of_derives_nil step derives rfl
  rwa [Clause.nullable] at empties

/-- The rules of a circle are not found, since the rules outside of it are closed. -/
theorem ruleNullable_of_circular {circle : String → Bool}
    (circular : Production.Circular productions circle) {name : String}
    (inside : circle name = true) : (ofProductions productions).ruleNullable name = false := by
  rw [Bool.eq_false_iff]
  intro nothing
  have closed : ∀ other, ∀ clauses ∈ Production.alternatives productions other,
      Clause.nullableAll (fun inner => !circle inner) clauses = true →
        (!circle other) = true := by
    intro other clauses member all
    by_contra within
    have needed := circular other (by simpa using within) clauses member
    rw [all] at needed
    cases needed
  have outside := ruleNullable_le closed nothing
  simp [inside] at outside

/-- The rules that are not found are a circle themselves. -/
theorem circular_not_ruleNullable :
    Production.Circular productions fun name =>
      !(ofProductions productions).ruleNullable name := by
  intro name missed clauses member
  rw [Bool.eq_false_iff]
  intro all
  have nothing := ruleNullable_of_alternative productions member (by simpa using all)
  simp [nothing] at missed

end Analysis

namespace Clause

variable {K : Type} {productions : List (Production K)}

/-- A name without a production has no words. -/
theorem not_derives_of_undefined {name : String} (undefined : name ∉ Production.names productions)
    (word : List K) : ¬ Derives (Production.alternatives productions) (.rule name) word := by
  intro derives
  cases derives with
  | rule member _ => exact undefined (Production.mem_names_of_mem_alternatives member)

end Clause

namespace Analysis

variable {K V C : Type} [TokenKind K]

/-- Nullability is the least fixed point. The sweeps end before there are more of them than rules,
with the rules that can match nothing; a clause is found nullable just if the empty word is one of
its words, where an undefined name has no words; a rule is missed just if it is in a circle of
rules without an empty base; and the same holds of every clause by a grammar that was resolved. -/
theorem nullable_leastFixedPoint (productions : List (Production K)) :
    (∃ count ≤ (Production.names productions).length,
      Production.SweepsTo productions [] count (Production.nullableRules productions)) ∧
    (∀ clause, (ofProductions productions).nullable clause = true ↔
      Clause.Derives (Production.alternatives productions) clause []) ∧
    (∀ name ∉ Production.names productions, ∀ word,
      ¬ Clause.Derives (Production.alternatives productions) (.rule name) word) ∧
    (∀ name, (ofProductions productions).ruleNullable name = false ↔
      ∃ circle, Production.Circular productions circle ∧ circle name = true) ∧
    ∀ grammar : Grammar K V C, grammar.Resolved → ∀ clause,
      grammar.nullable clause = true ↔ Clause.Derives grammar.alternatives clause [] := by
  refine ⟨?_, nullable_iff_derives_nil productions, ?_, fun name => ?_, ?_⟩
  · exact Production.nullableFrom_sweepsTo Production.Supported.nil (by simp)
  · exact fun name undefined => Clause.not_derives_of_undefined undefined
  · constructor
    · intro missed
      exact ⟨_, circular_not_ruleNullable, by simpa using missed⟩
    · rintro ⟨circle, circular, inside⟩
      exact ruleNullable_of_circular circular inside
  · exact fun grammar resolved => resolved.nullable_iff_derives_nil

/-- Two rules that only lead to each other, one of them behind an item that can be empty. -/
theorem nullable_leastFixedPoint_circle :
    let productions : List (Production Sample.Mark) :=
      [⟨"item", []⟩, ⟨"first", [.rule "item", .rule "second"]⟩, ⟨"second", [.rule "first"]⟩]
    Sample.grammar.Resolved ∧ (Sample.grammar.nullable (.rule "list") = true ↔
        Clause.Derives Sample.grammar.alternatives (.rule "list") []) ∧
      (ofProductions productions).ruleNullable "item" = true ∧
      (ofProductions productions).ruleNullable "second" = false := by
  intro productions
  obtain ⟨-, -, -, missed, grammars⟩ :=
    nullable_leastFixedPoint (V := Nat) (C := Unit) productions
  refine ⟨Sample.resolved, grammars Sample.grammar Sample.resolved _, by decide, ?_⟩
  refine (missed "second").mpr ⟨fun name => name = "first" || name = "second", ?_, by decide⟩
  intro name inside clauses member
  rcases (by simpa using inside : name = "first" ∨ name = "second") with rfl | rfl
  · obtain rfl : clauses = [.rule "item", .rule "second"] := by
      simpa [Production.alternatives, productions] using member
    rfl
  · obtain rfl : clauses = [.rule "first"] := by
      simpa [Production.alternatives, productions] using member
    rfl

end Analysis

end Lookahead
