import Lookahead.Token

/-!
# Sets of token kinds

A set of kinds is a strictly ascending list, so that two sets with the same members are the same
list, and a set is always shown in the order of its kinds.
-/

namespace Lookahead

/-- A finite set of token kinds, listed in ascending order without repetition. -/
structure KindSet (K : Type) [TokenKind K] where
  toList : List K
  ascending : toList.Pairwise (fun a b => compare a b = .lt)
  deriving DecidableEq

namespace KindSet

variable {K : Type} [TokenKind K]

instance : Membership K (KindSet K) := ⟨fun set kind => kind ∈ set.toList⟩

theorem mem_def {set : KindSet K} {kind : K} : kind ∈ set ↔ kind ∈ set.toList := Iff.rfl

instance (kind : K) (set : KindSet K) : Decidable (kind ∈ set) :=
  inferInstanceAs (Decidable (kind ∈ set.toList))

/-- The set without members. -/
def empty : KindSet K := ⟨[], .nil⟩

instance : EmptyCollection (KindSet K) := ⟨empty⟩

instance : Inhabited (KindSet K) := ⟨empty⟩

/-- The set whose only member is `kind`. -/
def singleton (kind : K) : KindSet K := ⟨[kind], List.pairwise_singleton _ _⟩

/-- Puts `kind` at its place in an ascending list. -/
def insertInto (kind : K) : List K → List K
  | [] => [kind]
  | first :: rest =>
    match compare kind first with
    | .lt => kind :: first :: rest
    | .eq => first :: rest
    | .gt => first :: insertInto kind rest

theorem mem_insertInto {kind other : K} {list : List K} :
    other ∈ insertInto kind list ↔ other = kind ∨ other ∈ list := by
  induction list with
  | nil => simp [insertInto]
  | cons first rest ih =>
    unfold insertInto
    split
    · simp
    next same =>
      obtain rfl := Std.LawfulEqOrd.eq_of_compare same
      simp
    · simp [ih, or_left_comm]

theorem insertInto_ascending {kind : K} {list : List K}
    (ascending : list.Pairwise (fun a b => compare a b = .lt)) :
    (insertInto kind list).Pairwise (fun a b => compare a b = .lt) := by
  induction list with
  | nil => exact List.pairwise_singleton _ _
  | cons first rest ih =>
    have below := List.pairwise_cons.mp ascending
    unfold insertInto
    split
    next less =>
      refine List.pairwise_cons.mpr ⟨fun other member => ?_, ascending⟩
      rcases List.mem_cons.mp member with rfl | member
      · exact less
      · exact Std.TransCmp.lt_trans less (below.1 other member)
    · exact ascending
    next greater =>
      refine List.pairwise_cons.mpr ⟨fun other member => ?_, ih below.2⟩
      rcases mem_insertInto.mp member with rfl | member
      · exact Std.OrientedCmp.lt_of_gt greater
      · exact below.1 other member

/-- The set with `kind` added. -/
def insert (set : KindSet K) (kind : K) : KindSet K :=
  ⟨insertInto kind set.toList, insertInto_ascending set.ascending⟩

@[simp] theorem mem_insert {set : KindSet K} {kind other : K} :
    other ∈ set.insert kind ↔ other = kind ∨ other ∈ set := mem_insertInto

@[simp] theorem not_mem_empty {kind : K} : ¬ kind ∈ (∅ : KindSet K) := List.not_mem_nil

@[simp] theorem mem_singleton {kind other : K} : other ∈ singleton kind ↔ other = kind :=
  List.mem_singleton

/-- The members of either set. -/
def union (a b : KindSet K) : KindSet K := b.toList.foldl insert a

instance : Union (KindSet K) := ⟨union⟩

@[simp] theorem mem_union {a b : KindSet K} {kind : K} : kind ∈ a ∪ b ↔ kind ∈ a ∨ kind ∈ b := by
  have folded (list : List K) (set : KindSet K) :
      kind ∈ list.foldl insert set ↔ kind ∈ set ∨ kind ∈ list := by
    induction list generalizing set with
    | nil => simp
    | cons first rest ih => simp [ih, or_assoc, or_left_comm]
  exact folded b.toList a

/-- The members of both sets. -/
def inter (a b : KindSet K) : KindSet K :=
  ⟨a.toList.filter (· ∈ b), a.ascending.filter _⟩

instance : Inter (KindSet K) := ⟨inter⟩

@[simp] theorem mem_inter {a b : KindSet K} {kind : K} : kind ∈ a ∩ b ↔ kind ∈ a ∧ kind ∈ b := by
  change kind ∈ a.toList.filter (· ∈ b) ↔ _
  simp [mem_def]

/-- The number of members. -/
def size (set : KindSet K) : Nat := set.toList.length

/-- Whether the set has no members. -/
def isEmpty (set : KindSet K) : Bool := set.toList.isEmpty

instance : ToString (KindSet K) :=
  ⟨fun set => "\x7b" ++ ", ".intercalate (set.toList.map TokenKind.label) ++ "\x7d"⟩

end KindSet

end Lookahead
