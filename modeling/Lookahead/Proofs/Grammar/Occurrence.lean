import Lookahead.Clause
import Mathlib.Data.List.Nodup

/-!
# Where clauses stand in clauses

A place in a clause is a list of numbers that tells which part to go into, then which part of
that one, and so on. The names that a clause mentions are the names that stand at some place in
it, and its choices are those that stand at some place, each place once.

Main statements: `Clause.mem_ruleNames_iff`, `Clause.mem_choicesAt` and `Clause.map_snd_choicesAt`.
-/

namespace Lookahead

/-- The items of a list come with different numbers. -/
theorem pairwise_zipIdx {α : Type} (list : List α) (start : Nat) :
    (list.zipIdx start).Pairwise fun item other => item.2 ≠ other.2 := by
  have numbers := List.nodup_range' (s := start) (n := list.length)
  rw [← List.zipIdx_map_snd] at numbers
  exact List.pairwise_map.mp numbers

/-- What is made of the items of a list is not repeated if it keeps the number of its item. -/
theorem nodup_flatMap_zipIdx {α β : Type} {list : List α} {start : Nat} {make : α × Nat → List β}
    (number : β → Nat) (each : ∀ item ∈ list.zipIdx start, (make item).Nodup)
    (keeps : ∀ item ∈ list.zipIdx start, ∀ made ∈ make item, number made = item.2) :
    ((list.zipIdx start).flatMap make).Nodup := by
  refine List.nodup_flatMap.mpr ⟨each, ?_⟩
  refine (pairwise_zipIdx list start).imp_of_mem fun {item other} member among different => ?_
  intro made here there
  exact different ((keeps item member made here).symm.trans (keeps other among made there))

namespace Clause

variable {K : Type}

/-- The clauses right inside a clause. -/
def parts : Clause K → List (Clause K)
  | .terminal _ => []
  | .rule _ => []
  | .sequence items => items
  | .choice members => members
  | .zeroOrMore body => [body]
  | .oneOrMore body => [body]
  | .optional body => [body]
  | .group body _ => [body]

/-- The clause that stands at a place in a clause. -/
def at? : Clause K → List Nat → Option (Clause K)
  | clause, [] => some clause
  | clause, index :: path => clause.parts[index]?.bind (at? · path)

/-- What holds of a clause whenever it holds of its parts holds of every clause. -/
theorem parts_induction {motive : Clause K → Prop}
    (step : ∀ clause : Clause K, (∀ part ∈ clause.parts, motive part) → motive clause)
    (clause : Clause K) : motive clause := by
  induction clause with
  | terminal kind => exact step _ (by simp [parts])
  | rule name => exact step _ (by simp [parts])
  | sequence items ih => exact step _ ih
  | choice members ih => exact step _ ih
  | zeroOrMore body ih => exact step _ (by simpa [parts] using ih)
  | oneOrMore body ih => exact step _ (by simpa [parts] using ih)
  | optional body ih => exact step _ (by simpa [parts] using ih)
  | group body label ih => exact step _ (by simpa [parts] using ih)

theorem at?_cons_eq_some {clause inner : Clause K} {index : Nat} {path : List Nat} :
    clause.at? (index :: path) = some inner ↔
      ∃ part, clause.parts[index]? = some part ∧ part.at? path = some inner := by
  simp [at?, Option.bind_eq_some_iff]

/-! ### Names -/

theorem mem_ruleNamesAll {name : String} {clauses : List (Clause K)} :
    name ∈ ruleNamesAll clauses ↔ ∃ clause ∈ clauses, name ∈ ruleNames clause := by
  induction clauses with
  | nil => simp [ruleNamesAll]
  | cons clause rest ih => simp [ruleNamesAll, ih]

theorem mem_ruleNames_iff_parts {name : String} {clause : Clause K} :
    name ∈ clause.ruleNames ↔
      clause = .rule name ∨ ∃ part ∈ clause.parts, name ∈ part.ruleNames := by
  cases clause <;> simp [ruleNames, parts, mem_ruleNamesAll, eq_comm]

/-- A clause mentions the names that stand at some place in it. -/
theorem mem_ruleNames_iff {name : String} (clause : Clause K) :
    name ∈ clause.ruleNames ↔ ∃ path, clause.at? path = some (.rule name) := by
  induction clause using parts_induction with
  | step clause ih =>
    rw [mem_ruleNames_iff_parts]
    constructor
    · rintro (rfl | ⟨part, member, mentioned⟩)
      · exact ⟨[], rfl⟩
      · obtain ⟨path, there⟩ := (ih part member).mp mentioned
        obtain ⟨index, found⟩ := List.mem_iff_getElem?.mp member
        exact ⟨index :: path, at?_cons_eq_some.mpr ⟨part, found, there⟩⟩
    · rintro ⟨path, there⟩
      cases path with
      | nil => exact Or.inl (Option.some.inj there)
      | cons index path =>
        obtain ⟨part, found, there⟩ := at?_cons_eq_some.mp there
        have member := List.mem_of_getElem? found
        exact Or.inr ⟨part, member, (ih part member).mpr ⟨path, there⟩⟩

/-! ### Choices -/

mutual
/-- The choices in a clause, each with its place, in the order in which `choices` lists them. -/
def choicesAt : Clause K → List (List Nat × List (Clause K))
  | .terminal _ => []
  | .rule _ => []
  | .sequence items => choicesAtAll 0 items
  | .choice members => ([], members) :: choicesAtAll 0 members
  | .zeroOrMore body => (choicesAt body).map fun found => (0 :: found.1, found.2)
  | .oneOrMore body => (choicesAt body).map fun found => (0 :: found.1, found.2)
  | .optional body => (choicesAt body).map fun found => (0 :: found.1, found.2)
  | .group body _ => (choicesAt body).map fun found => (0 :: found.1, found.2)

/-- The choices in parts that are numbered from `index` on. -/
def choicesAtAll (index : Nat) : List (Clause K) → List (List Nat × List (Clause K))
  | [] => []
  | clause :: rest =>
    (choicesAt clause).map (fun found => (index :: found.1, found.2)) ++
      choicesAtAll (index + 1) rest
end

/-- The clause itself, if it is a choice. -/
def ownChoice : Clause K → List (List Nat × List (Clause K))
  | .choice members => [([], members)]
  | _ => []

theorem choicesAtAll_eq (index : Nat) (clauses : List (Clause K)) :
    choicesAtAll index clauses = (clauses.zipIdx index).flatMap fun part =>
      (choicesAt part.1).map fun found => (part.2 :: found.1, found.2) := by
  induction clauses generalizing index with
  | nil => rfl
  | cons clause rest ih => simp [choicesAtAll, ih]

theorem choicesAt_eq (clause : Clause K) :
    clause.choicesAt = clause.ownChoice ++ clause.parts.zipIdx.flatMap fun part =>
      (choicesAt part.1).map fun found => (part.2 :: found.1, found.2) := by
  rw [← choicesAtAll_eq]
  cases clause <;> simp [choicesAt, choicesAtAll, ownChoice, parts]

theorem map_snd_choicesAtAll {clauses : List (Clause K)}
    (each : ∀ clause ∈ clauses, clause.choicesAt.map Prod.snd = clause.choices) (index : Nat) :
    (choicesAtAll index clauses).map Prod.snd = choicesAll clauses := by
  induction clauses generalizing index with
  | nil => rfl
  | cons clause rest ih =>
    have here := each clause List.mem_cons_self
    have later := ih (fun other among => each other (List.mem_cons_of_mem _ among)) (index + 1)
    simp only [choicesAtAll, choicesAll, List.map_append, List.map_map, later, ← here]
    rfl

/-- The choices that are found with their places are the choices of the clause. -/
theorem map_snd_choicesAt (clause : Clause K) : clause.choicesAt.map Prod.snd = clause.choices := by
  have body {clause : Clause K} (ih : clause.choicesAt.map Prod.snd = clause.choices) :
      (clause.choicesAt.map fun found => (0 :: found.1, found.2)).map Prod.snd =
        clause.choices := by
    rw [List.map_map]
    exact ih
  induction clause with
  | terminal kind => rfl
  | rule name => rfl
  | sequence items ih => exact map_snd_choicesAtAll ih 0
  | choice members ih => exact congrArg (members :: ·) (map_snd_choicesAtAll ih 0)
  | zeroOrMore _ ih => exact body ih
  | oneOrMore _ ih => exact body ih
  | optional _ ih => exact body ih
  | group _ _ ih => exact body ih

/-- A choice is found at every place at which one stands, and nowhere else. -/
theorem mem_choicesAt {path : List Nat} {members : List (Clause K)} (clause : Clause K) :
    (path, members) ∈ clause.choicesAt ↔ clause.at? path = some (.choice members) := by
  induction clause using parts_induction generalizing path with
  | step clause ih =>
    rw [choicesAt_eq, List.mem_append, List.mem_flatMap]
    cases path with
    | nil =>
      cases clause <;> simp [ownChoice, at?, eq_comm]
    | cons index path =>
      have other : (index :: path, members) ∉ clause.ownChoice := by
        cases clause <;> simp [ownChoice]
      rw [at?_cons_eq_some]
      constructor
      · rintro (own | ⟨⟨part, number⟩, listed, made⟩)
        · exact absurd own other
        · obtain ⟨⟨inner, found⟩, among, same⟩ := List.mem_map.mp made
          cases same
          have there := List.mem_zipIdx_iff_getElem?.mp listed
          exact ⟨part, there, (ih part (List.mem_of_getElem? there)).mp among⟩
      · rintro ⟨part, there, found⟩
        refine Or.inr ⟨(part, index), List.mem_zipIdx_iff_getElem?.mpr there, ?_⟩
        have among := (ih part (List.mem_of_getElem? there)).mpr found
        exact List.mem_map.mpr ⟨_, among, rfl⟩

/-- No choice is found twice at one place. -/
theorem nodup_choicesAt (clause : Clause K) : clause.choicesAt.Nodup := by
  induction clause using parts_induction with
  | step clause ih =>
    rw [choicesAt_eq]
    refine List.nodup_append.mpr ⟨?_, ?_, ?_⟩
    · cases clause <;> simp [ownChoice]
    · refine nodup_flatMap_zipIdx (fun found => found.1.headD 0) ?_ ?_
      · intro part listed
        have member := List.mem_of_getElem? (List.mem_zipIdx_iff_getElem?.mp listed)
        refine (ih part.1 member).map fun found other same => ?_
        simpa [Prod.ext_iff] using same
      · intro part _ made member
        obtain ⟨found, -, rfl⟩ := List.mem_map.mp member
        rfl
    · -- The clause itself stands at the empty place, its parts do not.
      rintro own here made member rfl
      obtain ⟨part, -, inside⟩ := List.mem_flatMap.mp member
      obtain ⟨found, -, rfl⟩ := List.mem_map.mp inside
      cases clause <;> simp [ownChoice] at here

theorem nodup_places (clause : Clause K) : (clause.choicesAt.map Prod.fst).Nodup := by
  refine clause.nodup_choicesAt.map_on ?_
  rintro ⟨place, members⟩ found ⟨_, others⟩ again rfl
  -- Only one choice stands at a place.
  have same := ((mem_choicesAt clause).mp found).symm.trans ((mem_choicesAt clause).mp again)
  cases same
  rfl

end Clause

end Lookahead
