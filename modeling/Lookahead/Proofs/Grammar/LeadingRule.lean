import Lookahead.Proofs.Grammar.SententialForm

/-!
# Leading rules and left recursion

A rule leads with another one if the other can stand in front of one of its alternatives, behind
clauses that have the empty word. A rule is left recursive if a form that begins with the rule
itself has a leftmost derivation from it. In a derivation of such a form each rule that comes to
stand in front was led with by the one before, so a rule is left recursive exactly when it leads
back to itself. The order in which a derivation expands its clauses does not matter.

Main statements: `leftRecursive_iff_transGen` and `leftRecursive_iff_rewrites`.
-/

namespace Lookahead

open Relation

/-- A match of the clause can begin with a match of the rule that is mentioned in it, since all
that stands in front of the rule has the empty word. -/
inductive Clause.LeadsWith {K : Type} (alternatives : String → List (List (Clause K))) :
    Clause K → String → Prop
  | rule (name : String) : LeadsWith alternatives (.rule name) name
  | here {clause rest name} :
      LeadsWith alternatives clause name → LeadsWith alternatives (.sequence (clause :: rest)) name
  | behind {clause rest name} :
      Derives alternatives clause [] → LeadsWith alternatives (.sequence rest) name →
      LeadsWith alternatives (.sequence (clause :: rest)) name
  | choice {member members name} :
      member ∈ members → LeadsWith alternatives member name →
      LeadsWith alternatives (.choice members) name
  | zeroOrMore {body name} :
      LeadsWith alternatives body name → LeadsWith alternatives (.zeroOrMore body) name
  | oneOrMore {body name} :
      LeadsWith alternatives body name → LeadsWith alternatives (.oneOrMore body) name
  | optional {body name} :
      LeadsWith alternatives body name → LeadsWith alternatives (.optional body) name
  | group {body label name} :
      LeadsWith alternatives body name → LeadsWith alternatives (.group body label) name

/-- The first rule leads with the second one. -/
def Leads {K : Type} (alternatives : String → List (List (Clause K))) (name inner : String) :
    Prop :=
  alternatives inner ≠ [] ∧
    ∃ clauses ∈ alternatives name, Clause.LeadsWith alternatives (.sequence clauses) inner

/-- A form that begins with the rule itself has a leftmost derivation from the rule, of at least
one step. All that once stood in front of it was derived to the empty word. -/
def LeftRecursive {K : Type} (alternatives : String → List (List (Clause K))) (name : String) :
    Prop :=
  ∃ rest, TransGen (Form.Leftmost alternatives) [.rule name] (.rule name :: rest)

namespace Clause

variable {K : Type} {alternatives : String → List (List (Clause K))} {name : String}

/-! ### What a clause leads with -/

theorem not_leadsWith_nil : ¬ LeadsWith alternatives (.sequence []) name := by
  intro leads; cases leads

theorem leadsWith_cons_iff {clause : Clause K} {rest : List (Clause K)} :
    LeadsWith alternatives (.sequence (clause :: rest)) name ↔
      LeadsWith alternatives clause name ∨
        Derives alternatives clause [] ∧ LeadsWith alternatives (.sequence rest) name := by
  constructor
  · intro leads
    cases leads with
    | here leads => exact Or.inl leads
    | behind nothing leads => exact Or.inr ⟨nothing, leads⟩
  · rintro (leads | ⟨nothing, leads⟩)
    · exact .here leads
    · exact .behind nothing leads

theorem leadsWith_append_iff {clauses rest : List (Clause K)} :
    LeadsWith alternatives (.sequence (clauses ++ rest)) name ↔
      LeadsWith alternatives (.sequence clauses) name ∨
        (∀ clause ∈ clauses, Derives alternatives clause []) ∧
          LeadsWith alternatives (.sequence rest) name := by
  induction clauses with
  | nil => simp [not_leadsWith_nil]
  | cons clause others ih =>
    rw [List.cons_append, leadsWith_cons_iff, leadsWith_cons_iff, ih, List.forall_mem_cons]
    tauto

/-- The rules that the search for left recursion looks at are those that a clause leads with. -/
theorem mem_leading_iff {empty : String → Bool}
    (exact : ∀ clause : Clause K, clause.nullable empty = true ↔ Derives alternatives clause [])
    (clause : Clause K) : name ∈ clause.leading empty ↔ LeadsWith alternatives clause name := by
  induction clause with
  | terminal kind =>
    have never : ¬ LeadsWith alternatives (.terminal kind) name := by intro leads; cases leads
    simp [leading, never]
  | rule inner =>
    simp only [leading, List.mem_singleton]
    constructor
    · rintro rfl
      exact .rule _
    · intro leads
      cases leads
      rfl
  | sequence items ih =>
    rw [leading]
    induction items with
    | nil => simp [leadingOfSequence, not_leadsWith_nil]
    | cons item rest rest_ih =>
      have here := ih item List.mem_cons_self
      have later := rest_ih fun other member => ih other (List.mem_cons_of_mem _ member)
      rw [leadingOfSequence, List.mem_append, here, leadsWith_cons_iff, ← exact item]
      by_cases nothing : item.nullable empty = true <;> simp [nothing, later]
  | choice members ih =>
    rw [leading]
    have each : name ∈ leadingOfChoice empty members ↔
        ∃ member ∈ members, name ∈ leading empty member := by
      clear ih
      induction members with
      | nil => simp [leadingOfChoice]
      | cons member rest rest_ih => simp [leadingOfChoice, rest_ih]
    rw [each]
    constructor
    · rintro ⟨member, among, leads⟩
      exact .choice among ((ih member among).mp leads)
    · intro leads
      cases leads with
      | choice among leads => exact ⟨_, among, (ih _ among).mpr leads⟩
  | zeroOrMore body ih => exact ih.trans ⟨.zeroOrMore, fun leads => by cases leads; assumption⟩
  | oneOrMore body ih => exact ih.trans ⟨.oneOrMore, fun leads => by cases leads; assumption⟩
  | optional body ih => exact ih.trans ⟨.optional, fun leads => by cases leads; assumption⟩
  | group body label ih => exact ih.trans ⟨.group, fun leads => by cases leads; assumption⟩

/-- A rule that a clause leads with is put in front by a derivation. -/
theorem LeadsWith.fronts {clause : Clause K} (leads : LeadsWith alternatives clause name) :
    Form.Fronts alternatives clause (.rule name) := by
  have plain (listed : List (Clause K)) : Clause.rule name ≠ .sequence listed := by simp
  induction leads with
  | rule name => exact .refl _
  | here _ ih => exact (ih plain).of_head (.sequence _)
  | behind nothing _ ih => exact (ih plain).of_behind plain nothing
  | choice among _ ih => exact (ih plain).of_head (.choice among)
  | zeroOrMore _ ih => exact (ih plain).of_head (.more _)
  | oneOrMore _ ih => exact (ih plain).of_head (.oneOrMore _)
  | optional _ ih => exact (ih plain).of_head (.present _)
  | group _ ih => exact (ih plain).of_head (.group _ _)

/-! ### Back through a derivation -/

variable {clause : Clause K} {expansion : List (Clause K)}

/-- A clause has the empty word if everything that it is expanded to has it. -/
theorem Expands.derives_nil (expands : clause.Expands alternatives expansion)
    (nothing : ∀ inner ∈ expansion, Derives alternatives inner []) :
    Derives alternatives clause [] := by
  cases expands with
  | rule member => exact .rule member (derives_sequence_nil_iff.mpr nothing)
  | sequence items => exact derives_sequence_nil_iff.mpr nothing
  | choice among => exact .choice among (nothing _ List.mem_cons_self)
  | stop body => exact .stop
  | more body => exact .stop
  | oneOrMore body => exact .oneOrMore (nothing body List.mem_cons_self) .stop
  | absent body => exact .absent
  | present body => exact .absent
  | group body label => exact .group (nothing body List.mem_cons_self)

/-- What an expansion leads with, the clause led with before, unless the clause is a rule. -/
theorem Expands.leadsWith (expands : clause.Expands alternatives expansion)
    (leads : LeadsWith alternatives (.sequence expansion) name) :
    LeadsWith alternatives clause name ∨
      ∃ outer, clause = .rule outer ∧ expansion ∈ alternatives outer := by
  cases expands with
  | rule member => exact Or.inr ⟨_, rfl, member⟩
  | sequence items => exact Or.inl leads
  | stop body => exact absurd leads not_leadsWith_nil
  | absent body => exact absurd leads not_leadsWith_nil
  | choice among =>
    left
    simp only [leadsWith_cons_iff, not_leadsWith_nil, and_false, or_false] at leads
    exact .choice among leads
  | more body =>
    left
    simp only [leadsWith_cons_iff, not_leadsWith_nil, and_false, or_false] at leads
    rcases leads with here | ⟨-, again⟩
    · exact .zeroOrMore here
    · exact again
  | oneOrMore body =>
    left
    simp only [leadsWith_cons_iff, not_leadsWith_nil, and_false, or_false] at leads
    rcases leads with here | ⟨-, again⟩
    · exact .oneOrMore here
    · cases again with
      | zeroOrMore here => exact .oneOrMore here
  | present body =>
    left
    simp only [leadsWith_cons_iff, not_leadsWith_nil, and_false, or_false] at leads
    exact .optional leads
  | group body label =>
    left
    simp only [leadsWith_cons_iff, not_leadsWith_nil, and_false, or_false] at leads
    exact .group leads

end Clause

namespace Form

variable {K : Type} {alternatives : String → List (List (Clause K))} {form other : Form K}
  {name : String}

/-- What a form leads with behind a step, it led with before, unless the step has put the
alternative of a rule in front; then it led with the rule. -/
theorem Rewrites.leadsWith (step : Rewrites alternatives form other)
    (leads : Clause.LeadsWith alternatives (.sequence other) name) :
    Clause.LeadsWith alternatives (.sequence form) name ∨
      ∃ outer, alternatives outer ≠ [] ∧
        Clause.LeadsWith alternatives (.sequence form) outer ∧
          ∃ clauses ∈ alternatives outer,
            Clause.LeadsWith alternatives (.sequence clauses) name := by
  cases step with
  | @step before clause expansion rest expands =>
    simp only [Clause.leadsWith_append_iff, Clause.leadsWith_cons_iff] at leads ⊢
    rcases leads with early | ⟨nothing, inside | ⟨empties, late⟩⟩
    · exact Or.inl (Or.inl early)
    · rcases expands.leadsWith inside with same | ⟨outer, rfl, member⟩
      · exact Or.inl (Or.inr ⟨nothing, Or.inl same⟩)
      · -- The rule was in front, and its alternative leads on.
        have alive : alternatives outer ≠ [] := List.ne_nil_of_mem member
        exact Or.inr ⟨outer, alive, Or.inr ⟨nothing, Or.inl (.rule outer)⟩, expansion, member,
          inside⟩
    · exact Or.inl (Or.inr ⟨nothing, Or.inr ⟨expands.derives_nil empties, late⟩⟩)

/-- A rule that comes to stand in front of a form is reached from a rule that the form led with at
first. -/
theorem exists_leads_of_rewrites {rest : Form K} (alive : alternatives name ≠ [])
    (steps : ReflTransGen (Rewrites alternatives) form (.rule name :: rest)) :
    ∃ first, alternatives first ≠ [] ∧ Clause.LeadsWith alternatives (.sequence form) first ∧
      ReflTransGen (Leads alternatives) first name := by
  -- The induction is from the end, where the rule stands in front of the form itself.
  induction steps using ReflTransGen.head_induction_on with
  | refl => exact ⟨name, alive, .here (.rule name), .refl⟩
  | head step _ ih =>
    obtain ⟨first, known, leads, path⟩ := ih
    rcases step.leadsWith leads with same | ⟨outer, outer_known, before, inside⟩
    · exact ⟨first, known, same, path⟩
    · exact ⟨outer, outer_known, before, .head ⟨known, inside⟩ path⟩

/-- A rule can only be replaced by one of its alternatives. -/
theorem Rewrites.of_rule (step : Rewrites alternatives [.rule name] form) :
    form ∈ alternatives name := by
  generalize whole : [Clause.rule name] = before at step
  cases step with
  | step front rest expands =>
    cases front with
    | nil =>
      obtain ⟨rfl, rfl⟩ := List.cons.inj whole
      cases expands with
      | rule member => simpa using member
    | cons clause front =>
      have short := congrArg List.length whole
      simp at short

theorem transGen_leads_of_rewrites {rest : Form K}
    (steps : TransGen (Rewrites alternatives) [.rule name] (.rule name :: rest)) :
    TransGen (Leads alternatives) name name := by
  obtain ⟨form, step, later⟩ := TransGen.head'_iff.mp steps
  have member := step.of_rule
  have alive : alternatives name ≠ [] := List.ne_nil_of_mem member
  obtain ⟨first, known, leads, path⟩ := exists_leads_of_rewrites alive later
  exact .head' ⟨known, form, member, leads⟩ path

/-- A rule is derived further to a form in front of which stands a rule that it leads with. -/
theorem exists_leftmost_of_leads {inner : String} (leads : Leads alternatives name inner) :
    ∃ rest, TransGen (Leftmost alternatives) [.rule name] (.rule inner :: rest) := by
  obtain ⟨-, clauses, member, front⟩ := leads
  obtain ⟨rest, yields⟩ := front.fronts.of_sequence (by simp)
  have step : Leftmost alternatives [.rule name] (clauses ++ []) :=
    leftmost_head (.rule member) []
  rw [List.append_nil] at step
  exact ⟨rest, .head' step yields⟩

theorem exists_leftmost_of_transGen {inner : String}
    (path : TransGen (Leads alternatives) name inner) :
    ∃ rest, TransGen (Leftmost alternatives) [.rule name] (.rule inner :: rest) := by
  induction path with
  | single leads => exact exists_leftmost_of_leads leads
  | tail _ leads ih =>
    obtain ⟨rest, before⟩ := ih
    obtain ⟨others, step⟩ := exists_leftmost_of_leads leads
    -- The new front is derived with what stands behind the old one left alone.
    have behind := TransGen.lift (p := Leftmost alternatives) (fun form => form ++ rest)
      (fun _ _ step => step.context [] rest) _ _ step
    exact ⟨others ++ rest, before.trans behind⟩

end Form

/-! ### Left recursion -/

variable {K : Type} {alternatives : String → List (List (Clause K))} {name : String}

/-- A rule is left recursive exactly when it leads back to itself. -/
theorem leftRecursive_iff_transGen :
    LeftRecursive alternatives name ↔ TransGen (Leads alternatives) name name := by
  constructor
  · rintro ⟨rest, steps⟩
    have anywhere : TransGen (Form.Rewrites alternatives) [.rule name] (.rule name :: rest) :=
      TransGen.mono (fun _ _ step => step.rewrites) _ _ steps
    exact Form.transGen_leads_of_rewrites anywhere
  · exact Form.exists_leftmost_of_transGen

/-- Left recursion does not depend on the order of the steps: a form that begins with the rule
itself has a leftmost derivation from the rule just if it has any derivation from it. -/
theorem leftRecursive_iff_rewrites :
    LeftRecursive alternatives name ↔
      ∃ rest, TransGen (Form.Rewrites alternatives) [.rule name] (.rule name :: rest) := by
  constructor
  · rintro ⟨rest, steps⟩
    exact ⟨rest, TransGen.mono (fun _ _ step => step.rewrites) _ _ steps⟩
  · rintro ⟨rest, steps⟩
    exact leftRecursive_iff_transGen.mpr (Form.transGen_leads_of_rewrites steps)

end Lookahead
