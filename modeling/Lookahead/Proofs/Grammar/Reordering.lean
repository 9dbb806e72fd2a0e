import Lookahead.Proofs.Grammar.Resolution
import Lookahead.Proofs.Grammar.Simulation

/-!
# Productions in another order

The alternatives of rules and the members of choices can be declared in any order. Productions that
are reordered derive alike, so their rules mention the same names, none of them becomes left
recursive, and branches that begin with different kinds still do. So they can be resolved if they
could be before, unless two alternatives of a rule have become equal.

Main statement: `Resolvable.of_reordered`.
-/

namespace Lookahead

open Relation

/-! ### Lists in another order -/

section Lists

variable {α β : Type} {related : α → β → Prop} {list : List α} {other : List β}

theorem forall₂_turned {back : β → α → Prop} (lists : List.Forall₂ related list other)
    (turned : ∀ a ∈ list, ∀ b, related a b → back b a) : List.Forall₂ back other list := by
  induction lists with
  | nil => exact .nil
  | cons first _ ih =>
    obtain ⟨here, later⟩ := List.forall_mem_cons.mp turned
    exact .cons (here _ first) (ih later)

/-- What holds of any two items of a list holds of any two items of a related one, if it is carried
over to related items. -/
theorem pairwise_of_forall₂ {apart : α → α → Prop} {apart' : β → β → Prop}
    (lists : List.Forall₂ related list other)
    (carried : ∀ {a b a' b'}, related a a' → related b b' → apart a b → apart' a' b')
    (each : list.Pairwise apart) : other.Pairwise apart' := by
  induction lists with
  | nil => exact .nil
  | cons first others ih =>
    obtain ⟨here, later⟩ := List.pairwise_cons.mp each
    refine List.pairwise_cons.mpr ⟨fun item' member => ?_, ih later⟩
    obtain ⟨item, among, alike⟩ := exists_mem_of_forall₂ others.flip member
    exact carried first alike (here item among)

/-- The second list has related items, in any order. -/
def Rearranges (related : α → β → Prop) (list : List α) (other : List β) : Prop :=
  ∃ middle, List.Forall₂ related list middle ∧ middle.Perm other

namespace Rearranges

theorem of_forall₂ (lists : List.Forall₂ related list other) : Rearranges related list other :=
  ⟨other, lists, .refl other⟩

theorem symm {back : β → α → Prop} (rearranges : Rearranges related list other)
    (turned : ∀ a ∈ list, ∀ b, related a b → back b a) : Rearranges back other list := by
  obtain ⟨middle, lists, order⟩ := rearranges
  exact List.perm_comp_forall₂ order.symm (forall₂_turned lists turned)

theorem exists_right (rearranges : Rearranges related list other) {item : α}
    (member : item ∈ list) : ∃ found ∈ other, related item found := by
  obtain ⟨middle, lists, order⟩ := rearranges
  obtain ⟨found, among, alike⟩ := exists_mem_of_forall₂ lists member
  exact ⟨found, order.mem_iff.mp among, alike⟩

theorem exists_left (rearranges : Rearranges related list other) {item : β}
    (member : item ∈ other) : ∃ found ∈ list, related found item := by
  have turned : Rearranges (flip related) other list := rearranges.symm fun _ _ _ => id
  exact turned.exists_right member

/-- What holds of any two items in one order holds of them in the other one, if it is carried over
to related items and does not depend on the order of the two. -/
theorem pairwise {apart : α → α → Prop} {apart' : β → β → Prop}
    (rearranges : Rearranges related list other)
    (carried : ∀ {a b a' b'}, related a a' → related b b' → apart a b → apart' a' b')
    (symmetric : ∀ {a b}, apart' a b → apart' b a) (each : list.Pairwise apart) :
    other.Pairwise apart' := by
  obtain ⟨middle, lists, order⟩ := rearranges
  exact (pairwise_of_forall₂ lists carried each).perm order symmetric

end Rearranges

end Lists

/-! ### Clauses and productions -/

/-- The clauses differ only in the order of the members of choices. -/
inductive Clause.Reorders {K : Type} : Clause K → Clause K → Prop
  | terminal (kind) : Reorders (.terminal kind) (.terminal kind)
  | rule (name) : Reorders (.rule name) (.rule name)
  | sequence {items items'} :
      List.Forall₂ Reorders items items' → Reorders (.sequence items) (.sequence items')
  | choice {members middle members'} :
      List.Forall₂ Reorders members middle → middle.Perm members' →
      Reorders (.choice members) (.choice members')
  | zeroOrMore {body body'} : Reorders body body' → Reorders (.zeroOrMore body) (.zeroOrMore body')
  | oneOrMore {body body'} : Reorders body body' → Reorders (.oneOrMore body) (.oneOrMore body')
  | optional {body body'} : Reorders body body' → Reorders (.optional body) (.optional body')
  | group {body body'} (label) :
      Reorders body body' → Reorders (.group body label) (.group body' label)

/-- The production is for the same rule, and its clauses differ only in the order of the members
of choices. -/
def Production.Reorders {K : Type} (production production' : Production K) : Prop :=
  production.rule = production'.rule ∧
    List.Forall₂ Clause.Reorders production.clauses production'.clauses

/-- The productions are declared in another order, and so are the members of choices in them. -/
def Production.Reordered {K : Type} (productions productions' : List (Production K)) : Prop :=
  Rearranges Production.Reorders productions productions'

namespace Clause

variable {K : Type} {clause clause' : Clause K}

theorem Reorders.symm (reorders : Reorders clause clause') : Reorders clause' clause := by
  induction clause generalizing clause' with
  | terminal kind =>
    cases reorders
    exact .terminal kind
  | rule name =>
    cases reorders
    exact .rule name
  | sequence items ih =>
    cases reorders with
    | sequence lists => exact .sequence (forall₂_turned lists fun item member _ => ih item member)
  | choice members ih =>
    cases reorders with
    | choice lists order =>
      obtain ⟨middle, backward, other⟩ :=
        Rearranges.symm ⟨_, lists, order⟩ fun member among _ => ih member among
      exact .choice backward other
  | zeroOrMore body ih => cases reorders with | zeroOrMore inner => exact .zeroOrMore (ih inner)
  | oneOrMore body ih => cases reorders with | oneOrMore inner => exact .oneOrMore (ih inner)
  | optional body ih => cases reorders with | optional inner => exact .optional (ih inner)
  | group body label ih => cases reorders with | group _ inner => exact .group label (ih inner)

theorem Reorders.swap_eq : Function.swap (Reorders (K := K)) = Reorders :=
  funext₂ fun _ _ => propext ⟨.symm, .symm⟩

theorem Reorders.resembles (reorders : Reorders clause clause') :
    Resembles Reorders clause clause' := by
  cases reorders with
  | terminal kind => exact .terminal kind
  | rule name => exact .rule name
  | sequence lists => exact .sequence lists
  | choice lists order =>
    exact .choice fun _ among => Rearranges.exists_right ⟨_, lists, order⟩ among
  | zeroOrMore inner => exact .zeroOrMore inner (.zeroOrMore inner)
  | oneOrMore inner => exact .oneOrMore inner (.zeroOrMore inner)
  | optional inner => exact .optional inner
  | group label inner => exact .group label label inner

theorem Reorders.parts (reorders : Reorders clause clause') :
    Rearranges Reorders clause.parts clause'.parts := by
  cases reorders with
  | terminal kind => exact .of_forall₂ .nil
  | rule name => exact .of_forall₂ .nil
  | sequence lists => exact .of_forall₂ lists
  | choice lists order => exact ⟨_, lists, order⟩
  | zeroOrMore inner => exact .of_forall₂ (.cons inner .nil)
  | oneOrMore inner => exact .of_forall₂ (.cons inner .nil)
  | optional inner => exact .of_forall₂ (.cons inner .nil)
  | group label inner => exact .of_forall₂ (.cons inner .nil)

/-- What stands at a place in the reordered clause stands reordered at some place in the clause. -/
theorem Reorders.exists_at {place : List Nat} {inner' : Clause K}
    (reorders : Reorders clause clause') (there : clause'.at? place = some inner') :
    ∃ place inner, clause.at? place = some inner ∧ Reorders inner inner' := by
  induction place generalizing clause clause' with
  | nil =>
    cases there
    exact ⟨[], clause, rfl, reorders⟩
  | cons index path ih =>
    obtain ⟨part', here, inside⟩ := at?_cons_eq_some.mp there
    obtain ⟨part, member, alike⟩ := reorders.parts.exists_left (List.mem_of_getElem? here)
    obtain ⟨place, inner, found, same⟩ := ih alike inside
    obtain ⟨number, position⟩ := List.mem_iff_getElem?.mp member
    exact ⟨number :: place, inner, at?_cons_eq_some.mpr ⟨part, position, found⟩, same⟩

end Clause

namespace Production

variable {K : Type} {productions productions' : List (Production K)}

theorem Reordered.symm (reordered : Reordered productions productions') :
    Reordered productions' productions := by
  refine Rearranges.symm reordered fun production _ production' reorders => ?_
  exact ⟨reorders.1.symm, forall₂_turned reorders.2 fun _ _ _ => Clause.Reorders.symm⟩

theorem Reordered.alternatives (reordered : Reordered productions productions') (name : String) :
    Rearranges (List.Forall₂ Clause.Reorders) (Production.alternatives productions name)
      (Production.alternatives productions' name) := by
  obtain ⟨middle, lists, order⟩ := reordered
  refine ⟨Production.alternatives middle name, ?_, (order.filter _).map _⟩
  -- The order was dealt with by the filter; what is left is to go through the related lists.
  clear order
  induction lists with
  | nil => exact .nil
  | @cons production production' rest rest' first _ ih =>
    simp only [Production.alternatives, List.filter_cons, first.1] at ih ⊢
    split
    · exact .cons first.2 ih
    · exact ih

theorem Reordered.mem_names {name : String} (reordered : Reordered productions productions')
    (listed : name ∈ names productions) : name ∈ names productions' := by
  obtain ⟨production, declared, rfl⟩ := Production.mem_names.mp listed
  obtain ⟨production', declared', alike⟩ := Rearranges.exists_right reordered declared
  exact Production.mem_names.mpr ⟨production', declared', alike.1.symm⟩

theorem Reordered.simulation (reordered : Reordered productions productions') :
    Clause.Simulation (Production.alternatives productions) (Production.alternatives productions')
      Clause.Reorders where
  terminal reorders := by
    cases reorders
    rfl
  expands reorders expands :=
    reorders.resembles.expands
      (fun name _ _ member => (reordered.alternatives name).exists_right member) expands

theorem Reordered.begins (reordered : Reordered productions productions') {clause clause' : Clause K}
    {kind : K} (reorders : clause.Reorders clause') (begins : Analysis.Begins productions clause kind) :
    Analysis.Begins productions' clause' kind :=
  reordered.simulation.begins reorders
    (fun clause => (Analysis.nullable_iff_derives_nil productions clause).symm)
    (fun clause => (Analysis.nullable_iff_derives_nil productions' clause).symm) begins

end Production

/-! ### Branches that begin with different kinds -/

namespace Production

variable {K : Type} {productions productions' : List (Production K)}

/-- No two of the branches can begin with the same kind. -/
def Separate (productions : List (Production K)) (branches : List (Clause K)) : Prop :=
  branches.Pairwise fun earlier later => ∀ kind,
    ¬ (Analysis.Begins productions earlier kind ∧ Analysis.Begins productions later kind)

/-- Branches that are reordered are told apart as they were before. -/
theorem Separate.of_rearranges (reordered : Reordered productions productions')
    {branches branches' : List (Clause K)}
    (rearranges : Rearranges Clause.Reorders branches branches')
    (separate : Separate productions branches) : Separate productions' branches' := by
  refine rearranges.pairwise (fun first second apart kind both => ?_)
    (fun apart kind both => apart kind both.symm) separate
  exact apart kind ⟨reordered.symm.begins first.symm both.1,
    reordered.symm.begins second.symm both.2⟩

variable [TokenKind K]

/-- Nothing overlaps just if the alternatives of every rule and the members of every choice begin
with different kinds. -/
theorem no_overlaps_iff :
    (∀ pair : BranchPair, ¬ pair.Overlaps productions) ↔
      (∀ name, Separate productions ((alternatives productions name).map .sequence)) ∧
        ∀ production ∈ productions, ∀ place members,
          (Clause.sequence production.clauses).at? place = some (.choice members) →
            Separate productions members := by
  have one (fork : Fork K) : Separate productions fork.branches ↔
      ∀ first second kind, ¬ fork.Shares productions first second kind := by
    rw [Separate, List.pairwise_iff_getElem]
    constructor
    · rintro apart first second kind ⟨small, earlier, later, before, behind, both⟩
      obtain ⟨short, rfl⟩ := List.getElem?_eq_some_iff.mp before
      obtain ⟨long, rfl⟩ := List.getElem?_eq_some_iff.mp behind
      exact apart first second short long small kind both
    · intro none first second short long small kind both
      exact none first second kind ⟨small, _, _, List.getElem?_eq_getElem short,
        List.getElem?_eq_getElem long, both⟩
  have all : (∀ pair : BranchPair, ¬ pair.Overlaps productions) ↔
      ∀ fork, Fork.StandsIn productions fork → Separate productions fork.branches := by
    simp only [one]
    constructor
    · intro none fork stands first second kind shares
      exact none ⟨fork.site, first, second⟩ ⟨fork, stands, rfl, kind, shares⟩
    · rintro none pair ⟨fork, stands, -, kind, shares⟩
      exact none fork stands _ _ kind shares
  rw [all]
  constructor
  · refine fun separate => ⟨fun name => ?_, fun production declared place members there => ?_⟩
    · by_cases listed : name ∈ names productions
      · exact separate _ (.rule listed)
      · -- A name without productions has no alternatives at all.
        have none : alternatives productions name = [] := by
          refine List.eq_nil_iff_forall_not_mem.mpr fun clauses member => listed ?_
          exact mem_names_of_mem_alternatives member
        rw [none]
        exact .nil
    · obtain ⟨number, position⟩ := List.mem_iff_getElem?.mp declared
      exact separate _ (.choice position there)
  · rintro ⟨rules, choices⟩ fork stands
    cases stands with
    | rule _ => exact rules _
    | choice position there => exact choices _ (List.mem_of_getElem? position) _ _ there

end Production

/-! ### Resolving again -/

/-- Productions that are reordered can be resolved if they could be before and no rule has an
alternative twice. -/
theorem Resolvable.of_reordered {K : Type} [TokenKind K] {policy : OverlapPolicy}
    {productions productions' : List (Production K)} (resolvable : Resolvable policy productions)
    (reordered : Production.Reordered productions productions')
    (distinct : ∀ name, (Production.alternatives productions' name).Nodup) :
    Resolvable policy productions' where
  inhabited := by
    obtain ⟨production, declared⟩ := List.exists_mem_of_ne_nil _ resolvable.inhabited
    obtain ⟨production', declared', -⟩ := Rearranges.exists_right reordered declared
    exact List.ne_nil_of_mem declared'
  defined production' declared' place name there := by
    obtain ⟨production, declared, -, clauses⟩ := Rearranges.exists_left reordered declared'
    obtain ⟨place, inner, found, same⟩ :=
      (Clause.Reorders.sequence clauses).exists_at there
    -- The same name stands somewhere in the production as it was.
    cases same
    obtain ⟨other, among, rfl⟩ := resolvable.defined production declared place name found
    obtain ⟨other', among', alike⟩ := Rearranges.exists_right reordered among
    exact ⟨other', among', alike.1.symm⟩
  distinct := distinct
  acyclic name rest steps := by
    -- A rule that has become left recursive would have been so before.
    have recursive := reordered.symm.simulation.leftRecursive (.rule name)
      (fun clause reorders => by cases reorders; rfl)
      (leftRecursive_iff_rewrites.mpr ⟨rest, steps⟩)
    obtain ⟨rest, steps⟩ := leftRecursive_iff_rewrites.mp recursive
    exact resolvable.acyclic name rest steps
  apart rejected := by
    obtain ⟨rules, choices⟩ := Production.no_overlaps_iff.mp (resolvable.apart rejected)
    refine Production.no_overlaps_iff.mpr ⟨fun name => ?_, fun production' declared' place members
      there => ?_⟩
    · obtain ⟨middle, lists, order⟩ := reordered.alternatives name
      refine (rules name).of_rearranges reordered ⟨middle.map .sequence, ?_, order.map _⟩
      rw [List.forall₂_map_left_iff, List.forall₂_map_right_iff]
      exact lists.imp fun _ _ => .sequence
    · obtain ⟨production, declared, -, clauses⟩ := Rearranges.exists_left reordered declared'
      obtain ⟨place, inner, found, same⟩ := (Clause.Reorders.sequence clauses).exists_at there
      cases same with
      | choice lists order =>
        exact (choices production declared place _ found).of_rearranges reordered
          ⟨_, lists, order⟩

end Lookahead
