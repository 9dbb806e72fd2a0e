import Lookahead.Grammar.First
import Mathlib.Data.List.Perm.Subperm

/-!
# Nullability is a fixed point

The sweeps over the productions stop at a list of rules that is closed, since a sweep that finds
nothing new finds nothing at all, and supported, since a rule is noted on account of an
alternative that could match nothing by what was known then. So a rule can match nothing exactly
when one of its alternatives can.

Main statement: `Analysis.ruleNullable_eq`.
-/

namespace Lookahead

/-- Erasing duplicates leaves none. -/
theorem nodup_eraseDups {α : Type} [BEq α] [LawfulBEq α] :
    (list : List α) → list.eraseDups.Nodup
  | [] => by simp
  | first :: rest => by
    rw [List.eraseDups_cons, List.nodup_cons]
    refine ⟨?_, nodup_eraseDups (rest.filter fun other => !other == first)⟩
    simp [List.mem_eraseDups]
termination_by list => list.length
decreasing_by exact Nat.lt_succ_of_le (List.length_filter_le _ _)

namespace Clause

variable {K : Type}

/-! ### Lists of clauses -/

theorem nullableAll_iff {empty : String → Bool} {clauses : List (Clause K)} :
    nullableAll empty clauses = true ↔ ∀ clause ∈ clauses, clause.nullable empty = true := by
  induction clauses with
  | nil => simp [nullableAll]
  | cons clause rest ih => simp [nullableAll, ih]

theorem nullableAny_iff {empty : String → Bool} {clauses : List (Clause K)} :
    nullableAny empty clauses = true ↔ ∃ clause ∈ clauses, clause.nullable empty = true := by
  induction clauses with
  | nil => simp [nullableAny]
  | cons clause rest ih => simp [nullableAny, ih]

/-! ### Monotonicity -/

/-- What can match nothing still can when more rules can. -/
theorem nullable_mono {empty more : String → Bool}
    (grows : ∀ name, empty name = true → more name = true) (clause : Clause K)
    (nothing : clause.nullable empty = true) : clause.nullable more = true := by
  induction clause with
  | terminal kind => exact nothing
  | rule name => exact grows name nothing
  | sequence items ih =>
    rw [nullable, nullableAll_iff] at nothing ⊢
    exact fun item member => ih item member (nothing item member)
  | choice members ih =>
    rw [nullable, nullableAny_iff] at nothing ⊢
    obtain ⟨member, among, empties⟩ := nothing
    exact ⟨member, among, ih member among empties⟩
  | zeroOrMore body => rfl
  | oneOrMore body ih => exact ih nothing
  | optional body => rfl
  | group body label ih => exact ih nothing

theorem nullableAll_mono {empty more : String → Bool}
    (grows : ∀ name, empty name = true → more name = true) {clauses : List (Clause K)}
    (nothing : nullableAll empty clauses = true) : nullableAll more clauses = true := by
  rw [nullableAll_iff] at nothing ⊢
  exact fun clause member => nullable_mono grows clause (nothing clause member)

end Clause

namespace Production

variable {K : Type} {productions : List (Production K)}

/-! ### Names and alternatives -/

theorem mem_names {name : String} :
    name ∈ names productions ↔ ∃ production ∈ productions, production.rule = name := by
  simp [names, List.mem_eraseDups]

theorem mem_alternatives {name : String} {clauses : List (Clause K)} :
    clauses ∈ alternatives productions name ↔
      ∃ production ∈ productions, production.rule = name ∧ production.clauses = clauses := by
  simp [alternatives, and_assoc]

theorem defines_iff {name : String} :
    defines productions name = true ↔ name ∈ names productions := by
  simp [defines, mem_names]

/-- Only a defined rule has alternatives. -/
theorem mem_names_of_mem_alternatives {name : String} {clauses : List (Clause K)}
    (member : clauses ∈ alternatives productions name) : name ∈ names productions := by
  obtain ⟨production, declared, rfl, -⟩ := mem_alternatives.mp member
  exact mem_names.mpr ⟨production, declared, rfl⟩

theorem alternatives_ne_nil_iff {name : String} :
    alternatives productions name ≠ [] ↔ name ∈ names productions := by
  rw [mem_names, Ne, List.eq_nil_iff_forall_not_mem]
  simp [mem_alternatives]

/-! ### One step and one sweep -/

/-- Whether some alternative of the rule can match nothing by what is known. -/
def emptied (productions : List (Production K)) (known : List String) (name : String) : Bool :=
  (alternatives productions name).any (Clause.nullableAll (known.contains ·))

theorem emptied_mono {known more : List String} (grows : known ⊆ more) {name : String}
    (h : emptied productions known name = true) : emptied productions more name = true := by
  obtain ⟨clauses, member, nothing⟩ := List.any_eq_true.mp h
  refine List.any_eq_true.mpr ⟨clauses, member, Clause.nullableAll_mono (fun other => ?_) nothing⟩
  simpa using @grows other

theorem noteNullable_cases (productions : List (Production K)) (known : List String)
    (name : String) :
    (name ∉ known ∧ emptied productions known name = true ∧
      noteNullable productions known name = known ++ [name]) ∨
    (noteNullable productions known name = known ∧
      (emptied productions known name = true → name ∈ known)) := by
  unfold noteNullable emptied
  split
  next noted =>
    left
    simpa using noted
  next skipped =>
    right
    refine ⟨rfl, fun nothing => ?_⟩
    by_contra fresh
    exact skipped (by simpa [fresh] using nothing)

theorem noteNullable_grows (productions : List (Production K)) (known : List String)
    (name : String) :
    ∃ added, noteNullable productions known name = known ++ added := by
  rcases noteNullable_cases productions known name with ⟨-, -, eq⟩ | ⟨eq, -⟩
  · exact ⟨[name], eq⟩
  · exact ⟨[], by simpa using eq⟩

theorem foldl_noteNullable_grows (productions : List (Production K))
    (pending known : List String) :
    ∃ added, pending.foldl (noteNullable productions) known = known ++ added := by
  induction pending generalizing known with
  | nil => exact ⟨[], by simp⟩
  | cons name rest ih =>
    obtain ⟨first, eq⟩ := noteNullable_grows productions known name
    obtain ⟨added, swept⟩ := ih (known ++ first)
    exact ⟨first ++ added, by rw [List.foldl_cons, eq, swept, List.append_assoc]⟩

/-- A sweep that finds nothing new has passed over every rule for want of an alternative that
can match nothing. -/
theorem closed_of_foldl_length {pending known : List String}
    (same : (pending.foldl (noteNullable productions) known).length = known.length) :
    ∀ name ∈ pending, emptied productions known name = true → name ∈ known := by
  induction pending generalizing known with
  | nil => simp
  | cons first rest ih =>
    rw [List.foldl_cons] at same
    obtain ⟨added, swept⟩ :=
      foldl_noteNullable_grows productions rest (noteNullable productions known first)
    rcases noteNullable_cases productions known first with ⟨-, -, eq⟩ | ⟨eq, kept⟩
    · -- A name that is noted makes the list longer, and it never gets shorter again.
      rw [swept, eq] at same
      simp only [List.length_append, List.length_singleton] at same
      omega
    · rw [eq] at same
      intro name member
      rcases List.mem_cons.mp member with rfl | later
      · exact kept
      · exact ih same name later

/-! ### Known rules -/

/-- What every stage of the sweeps keeps: rules are noted once, they are rules of the
productions, and an alternative accounts for each of them. -/
structure Supported (productions : List (Production K)) (known : List String) : Prop where
  nodup : known.Nodup
  named : known ⊆ names productions
  accounted : ∀ name ∈ known, emptied productions known name = true

theorem Supported.nil : Supported productions [] :=
  ⟨List.nodup_nil, by simp, by simp⟩

theorem Supported.note {known : List String} (supported : Supported productions known)
    {name : String} (member : name ∈ names productions) :
    Supported productions (noteNullable productions known name) := by
  rcases noteNullable_cases productions known name with
    ⟨fresh, nothing, eq⟩ | ⟨eq, -⟩
  · rw [eq]
    have grows : known ⊆ known ++ [name] := List.subset_append_left _ _
    refine ⟨?_, ?_, ?_⟩
    · refine List.nodup_append.mpr ⟨supported.nodup, by simp, ?_⟩
      rintro other old _ new rfl
      exact fresh (List.mem_singleton.mp new ▸ old)
    · exact List.append_subset.mpr ⟨supported.named, by simpa using member⟩
    · intro other among
      rcases List.mem_append.mp among with old | new
      · exact emptied_mono grows (supported.accounted other old)
      · rw [List.mem_singleton.mp new]
        exact emptied_mono grows nothing
  · rw [eq]
    exact supported

theorem Supported.foldl {pending known : List String} (supported : Supported productions known)
    (named : pending ⊆ names productions) :
    Supported productions (pending.foldl (noteNullable productions) known) := by
  induction pending generalizing known with
  | nil => exact supported
  | cons name rest ih =>
    have split := List.cons_subset.mp named
    exact ih (supported.note split.1) split.2

/-- With a bound for the rules that are still unknown, the sweeps end where no rule is missing. -/
theorem nullableFrom_closed {bound : Nat} {known : List String}
    (supported : Supported productions known)
    (enough : (names productions).length ≤ known.length + bound) :
    Supported productions (nullableFrom productions bound known) ∧
      ∀ name, emptied productions (nullableFrom productions bound known) name = true →
        name ∈ nullableFrom productions bound known := by
  induction bound generalizing known with
  | zero =>
    refine ⟨supported, fun name nothing => ?_⟩
    -- As many rules are noted as there are, so all of them are.
    have perm := (List.subperm_of_subset supported.nodup supported.named).perm_of_length_le enough
    obtain ⟨clauses, member, -⟩ := List.any_eq_true.mp nothing
    exact perm.symm.subset (mem_names_of_mem_alternatives member)
  | succ bound ih =>
    have swept : Supported productions (sweepNullable productions known) :=
      supported.foldl (List.Subset.refl _)
    simp only [nullableFrom]
    split
    next same =>
      refine ⟨supported, fun name nothing => ?_⟩
      obtain ⟨clauses, member, -⟩ := List.any_eq_true.mp nothing
      exact closed_of_foldl_length same name (mem_names_of_mem_alternatives member) nothing
    next found =>
      -- The sweep has noted a rule, so the bound for the rest may be smaller by one.
      obtain ⟨added, eq⟩ := foldl_noteNullable_grows productions (names productions) known
      have longer : known.length < (sweepNullable productions known).length := by
        have := congrArg List.length eq
        simp only [sweepNullable, List.length_append] at this found ⊢
        omega
      exact ih swept (by omega)

theorem nullableRules_supported : Supported productions (nullableRules productions) :=
  (nullableFrom_closed Supported.nil (by simp)).1

theorem mem_nullableRules_iff (productions : List (Production K)) (name : String) :
    name ∈ nullableRules productions ↔
      emptied productions (nullableRules productions) name = true :=
  ⟨nullableRules_supported.accounted name,
    (nullableFrom_closed Supported.nil (by simp)).2 name⟩

end Production

namespace Analysis

variable {K : Type} {productions : List (Production K)}

/-- A rule can match nothing exactly when one of its alternatives can, for every name; a name
without a production has no alternatives. -/
theorem ruleNullable_eq (name : String) :
    (ofProductions productions).ruleNullable name =
      (Production.alternatives productions name).any
        (Clause.nullableAll (ofProductions productions).ruleNullable) := by
  have known := Production.mem_nullableRules_iff productions name
  apply Bool.eq_iff_iff.mpr
  rw [← List.contains_iff_mem] at known
  exact known

/-- Only a defined rule can match nothing. -/
theorem mem_names_of_ruleNullable {name : String}
    (nothing : (ofProductions productions).ruleNullable name = true) :
    name ∈ Production.names productions := by
  apply Production.nullableRules_supported.named
  simpa [ruleNullable, ofProductions] using nothing

end Analysis

end Lookahead
