import Lookahead.Proofs.Grammar.LeadingRule

/-!
# Grammars that derive alike

A simulation relates the clauses of one grammar to clauses of another one such that every step of a
derivation by the first grammar is a step by the second one, from a form to one with related
clauses. What derivations decide is then carried over: which clauses are nullable, what they can
begin with, and which rules are left recursive. With a simulation in both directions the parser
sees the same in front of related clauses.

Main statements: `Grammar.Bisimulation.nullable_eq` and `Grammar.Bisimulation.firstOf_eq`.
-/

namespace Lookahead

open Relation

theorem KindSet.ext {K : Type} [TokenKind K] {a b : KindSet K}
    (same : ∀ kind, kind ∈ a ↔ kind ∈ b) : a = b := by
  have distinct (set : KindSet K) : set.toList.Nodup := by
    refine set.ascending.imp fun {kind other} less => ?_
    rintro rfl
    exact absurd less (by simp)
  -- Both lists are ascending, so the same members are listed in the same order.
  have lists : a.toList = b.toList := by
    refine List.Perm.eq_of_pairwise (fun kind other _ _ less greater => ?_) a.ascending b.ascending
      ((List.perm_ext_iff_of_nodup (distinct a) (distinct b)).mpr same)
    have cyclic := Std.OrientedCmp.gt_of_lt less
    rw [greater] at cyclic
    cases cyclic
  -- What else a set holds are proofs.
  cases a
  cases b
  cases lists
  rfl

theorem exists_append_of_forall₂ {α β : Type} {related : α → β → Prop} {before rest : List α}
    {list : List β} (lists : List.Forall₂ related (before ++ rest) list) :
    ∃ front behind, list = front ++ behind ∧
      List.Forall₂ related before front ∧ List.Forall₂ related rest behind := by
  induction before generalizing list with
  | nil => exact ⟨[], list, rfl, .nil, lists⟩
  | cons item before ih =>
    cases lists with
    | cons first others =>
      obtain ⟨front, behind, rfl, same, later⟩ := ih others
      exact ⟨_ :: front, behind, rfl, .cons first same, later⟩

theorem exists_mem_of_forall₂ {α β : Type} {related : α → β → Prop} {list : List α}
    {other : List β} (lists : List.Forall₂ related list other) {item : α} (member : item ∈ list) :
    ∃ found ∈ other, related item found := by
  induction lists with
  | nil => cases member
  | cons first _ ih =>
    rcases List.mem_cons.mp member with rfl | later
    · exact ⟨_, List.mem_cons_self, first⟩
    · obtain ⟨found, among, alike⟩ := ih later
      exact ⟨found, List.mem_cons_of_mem _ among, alike⟩

namespace Clause

variable {K : Type} {alternatives others : String → List (List (Clause K))}
  {empty : String → Bool} {clause : Clause K} {kind : K}

/-! ### Back through a step -/

/-- A clause can begin with whatever it is expanded to can begin with. -/
theorem Expands.begins {expansion : List (Clause K)}
    (expands : clause.Expands alternatives expansion)
    (begins : Begins alternatives empty (.sequence expansion) kind) :
    Begins alternatives empty clause kind := by
  cases expands with
  | rule member => exact .rule member begins
  | sequence items => exact begins
  | stop body => exact absurd begins Begins.nil_iff
  | absent body => exact absurd begins Begins.nil_iff
  | choice among =>
    simp only [Begins.cons_iff, Begins.nil_iff, and_false, or_false] at begins
    exact .choice among begins
  | more body =>
    -- Behind an empty round the loop begins as its body does, which is nothing new.
    simpa only [Begins.cons_iff, Begins.nil_iff, Begins.zeroOrMore_iff, and_false, or_false,
      or_iff_left_of_imp And.right] using begins
  | oneOrMore body =>
    simpa only [Begins.cons_iff, Begins.nil_iff, Begins.zeroOrMore_iff, Begins.oneOrMore_iff,
      and_false, or_false, or_iff_left_of_imp And.right] using begins
  | present body =>
    simpa only [Begins.cons_iff, Begins.nil_iff, Begins.optional_iff, and_false, or_false]
      using begins
  | group body label =>
    simpa only [Begins.cons_iff, Begins.nil_iff, Begins.group_iff, and_false, or_false]
      using begins

theorem begins_append_iff {before rest : List (Clause K)} :
    Begins alternatives empty (.sequence (before ++ rest)) kind ↔
      Begins alternatives empty (.sequence before) kind ∨
        (∀ inner ∈ before, inner.nullable empty = true) ∧
          Begins alternatives empty (.sequence rest) kind := by
  induction before with
  | nil => simp
  | cons inner before ih =>
    simp only [List.cons_append, Begins.cons_iff, ih, List.forall_mem_cons]
    tauto

end Clause

namespace Form

variable {K : Type} {alternatives : String → List (List (Clause K))} {form other : Form K}

theorem Rewrites.derives_nil (step : Rewrites alternatives form other)
    (nothing : ∀ inner ∈ other, Clause.Derives alternatives inner []) :
    ∀ inner ∈ form, Clause.Derives alternatives inner [] := by
  cases step with
  | step before rest expands =>
    simp only [List.forall_mem_append] at nothing
    exact List.forall_mem_append.mpr ⟨nothing.1,
      List.forall_mem_cons.mpr ⟨expands.derives_nil nothing.2.1, nothing.2.2⟩⟩

theorem derives_nil_of_rewrites (steps : ReflTransGen (Rewrites alternatives) form []) :
    ∀ inner ∈ form, Clause.Derives alternatives inner [] := by
  induction steps using ReflTransGen.head_induction_on with
  | refl => simp
  | head step _ ih => exact step.derives_nil ih

/-- A form can begin with whatever it can begin with behind a step, if the signs tell which
clauses have the empty word. -/
theorem Rewrites.begins {empty : String → Bool} {kind : K} (step : Rewrites alternatives form other)
    (exact : ∀ clause : Clause K,
      Clause.Derives alternatives clause [] ↔ clause.nullable empty = true)
    (begins : Clause.Begins alternatives empty (.sequence other) kind) :
    Clause.Begins alternatives empty (.sequence form) kind := by
  cases step with
  | step before rest expands =>
    simp only [Clause.begins_append_iff, Clause.Begins.cons_iff] at begins ⊢
    rcases begins with early | ⟨nothing, here | ⟨empties, late⟩⟩
    · exact Or.inl early
    · exact Or.inr ⟨nothing, Or.inl (expands.begins here)⟩
    · -- The expansion has the empty word, so the clause has it too.
      have through := expands.derives_nil fun inner member => (exact inner).mpr (empties inner member)
      exact Or.inr ⟨nothing, Or.inr ⟨(exact _).mp through, late⟩⟩

theorem begins_of_rewrites {empty : String → Bool} {kind : K}
    (steps : ReflTransGen (Rewrites alternatives) form other)
    (exact : ∀ clause : Clause K,
      Clause.Derives alternatives clause [] ↔ clause.nullable empty = true)
    (begins : Clause.Begins alternatives empty (.sequence other) kind) :
    Clause.Begins alternatives empty (.sequence form) kind := by
  induction steps using ReflTransGen.head_induction_on with
  | refl => exact begins
  | head step _ ih => exact step.begins exact ih

end Form

/-! ### Simulations -/

/-- Whatever a clause is expanded to by the first alternatives, a related clause is expanded to
by the second ones, clause by clause. -/
structure Clause.Simulation {K : Type} (alternatives others : String → List (List (Clause K)))
    (related : Clause K → Clause K → Prop) : Prop where
  terminal {kind clause} : related (.terminal kind) clause → clause = .terminal kind
  expands {clause clause' expansion} :
    related clause clause' → clause.Expands alternatives expansion →
      ∃ expansion', clause'.Expands others expansion' ∧
        List.Forall₂ related expansion expansion'

/-- The clauses are made in the same way from related ones. The members of a choice can come in
any order. -/
inductive Clause.Resembles {K : Type} (related : Clause K → Clause K → Prop) :
    Clause K → Clause K → Prop
  | terminal (kind) : Resembles related (.terminal kind) (.terminal kind)
  | rule (name) : Resembles related (.rule name) (.rule name)
  | sequence {items items'} :
      List.Forall₂ related items items' → Resembles related (.sequence items) (.sequence items')
  | choice {members members'} :
      (∀ member ∈ members, ∃ member' ∈ members', related member member') →
      Resembles related (.choice members) (.choice members')
  | zeroOrMore {body body'} :
      related body body' → related (.zeroOrMore body) (.zeroOrMore body') →
      Resembles related (.zeroOrMore body) (.zeroOrMore body')
  | oneOrMore {body body'} :
      related body body' → related (.zeroOrMore body) (.zeroOrMore body') →
      Resembles related (.oneOrMore body) (.oneOrMore body')
  | optional {body body'} :
      related body body' → Resembles related (.optional body) (.optional body')
  | group {body body'} (label label') :
      related body body' → Resembles related (.group body label) (.group body' label')

/-- Clauses that are made in the same way are expanded in the same way, if rules are. -/
theorem Clause.Resembles.expands {K : Type} {alternatives others : String → List (List (Clause K))}
    {related : Clause K → Clause K → Prop} {clause clause' : Clause K}
    {expansion : List (Clause K)} (resembles : Resembles related clause clause')
    (rules : ∀ name, clause = .rule name → ∀ clauses ∈ alternatives name,
      ∃ clauses' ∈ others name, List.Forall₂ related clauses clauses')
    (expands : clause.Expands alternatives expansion) :
    ∃ expansion', clause'.Expands others expansion' ∧
      List.Forall₂ related expansion expansion' := by
  cases resembles with
  | terminal kind => cases expands
  | rule name =>
    cases expands with
    | rule member =>
      obtain ⟨clauses', member', alike⟩ := rules name rfl _ member
      exact ⟨clauses', .rule member', alike⟩
  | sequence lists =>
    cases expands
    exact ⟨_, .sequence _, lists⟩
  | choice members =>
    cases expands with
    | choice among =>
      obtain ⟨member', among', alike⟩ := members _ among
      exact ⟨[member'], .choice among', .cons alike .nil⟩
  | zeroOrMore inner again =>
    cases expands with
    | stop => exact ⟨[], .stop _, .nil⟩
    | more => exact ⟨_, .more _, .cons inner (.cons again .nil)⟩
  | oneOrMore inner again =>
    cases expands
    exact ⟨_, .oneOrMore _, .cons inner (.cons again .nil)⟩
  | optional inner =>
    cases expands with
    | absent => exact ⟨[], .absent _, .nil⟩
    | present => exact ⟨_, .present _, .cons inner .nil⟩
  | group label label' inner =>
    cases expands
    exact ⟨_, .group _ _, .cons inner .nil⟩

namespace Clause.Simulation

variable {K : Type} {alternatives others : String → List (List (Clause K))}
  {related : Clause K → Clause K → Prop} {form other form' : Form K} {clause clause' : Clause K}

theorem rewrites (simulation : Simulation alternatives others related)
    (alike : List.Forall₂ related form form') (step : Form.Rewrites alternatives form other) :
    ∃ other', Form.Rewrites others form' other' ∧ List.Forall₂ related other other' := by
  cases step with
  | step before rest expands =>
    obtain ⟨front, _, rfl, early, late⟩ := exists_append_of_forall₂ alike
    cases late with
    | cons first behind =>
      obtain ⟨expansion', expands', inner⟩ := simulation.expands first expands
      exact ⟨_, .step front _ expands', List.rel_append early (List.rel_append inner behind)⟩

theorem reflTransGen (simulation : Simulation alternatives others related)
    (alike : List.Forall₂ related form form')
    (steps : ReflTransGen (Form.Rewrites alternatives) form other) :
    ∃ other', ReflTransGen (Form.Rewrites others) form' other' ∧
      List.Forall₂ related other other' := by
  induction steps with
  | refl => exact ⟨form', .refl, alike⟩
  | tail _ step ih =>
    obtain ⟨middle, before, same⟩ := ih
    obtain ⟨other', last, behind⟩ := simulation.rewrites same step
    exact ⟨other', before.tail last, behind⟩

theorem transGen (simulation : Simulation alternatives others related)
    (alike : List.Forall₂ related form form')
    (steps : TransGen (Form.Rewrites alternatives) form other) :
    ∃ other', TransGen (Form.Rewrites others) form' other' ∧
      List.Forall₂ related other other' := by
  obtain ⟨middle, first, later⟩ := TransGen.head'_iff.mp steps
  obtain ⟨middle', first', same⟩ := simulation.rewrites alike first
  obtain ⟨other', later', behind⟩ := simulation.reflTransGen same later
  exact ⟨other', .head' first' later', behind⟩

theorem derives_nil (simulation : Simulation alternatives others related)
    (alike : related clause clause') (derives : Derives alternatives clause []) :
    Derives others clause' [] := by
  have steps : ReflTransGen (Form.Rewrites alternatives) [clause] [] :=
    ReflTransGen.mono (fun _ _ step => step.rewrites) _ _ (Form.yields_of_derives derives)
  obtain ⟨other', steps', same⟩ := simulation.reflTransGen (.cons alike .nil) steps
  -- Only the empty form is related to the empty form.
  cases same
  exact Form.derives_nil_of_rewrites steps' clause' (List.mem_singleton_self clause')

/-- A related clause can begin with the same kinds. -/
theorem begins {empty empty' : String → Bool} {kind : K}
    (simulation : Simulation alternatives others related) (alike : related clause clause')
    (exact : ∀ clause, Derives alternatives clause [] ↔ clause.nullable empty = true)
    (exact' : ∀ clause, Derives others clause [] ↔ clause.nullable empty' = true)
    (begins : Begins alternatives empty clause kind) : Begins others empty' clause' kind := by
  obtain ⟨rest, yields⟩ := Form.fronts_terminal (fun name => (exact (.rule name)).mpr) begins
  have steps : ReflTransGen (Form.Rewrites alternatives) [clause] (.terminal kind :: rest) :=
    ReflTransGen.mono (fun _ _ step => step.rewrites) _ _ yields
  obtain ⟨other', steps', same⟩ := simulation.reflTransGen (.cons alike .nil) steps
  cases same with
  | cons first behind =>
    obtain rfl := simulation.terminal first
    -- The related form begins with the same kind, and so does every form in front of it.
    have front := Form.begins_of_rewrites steps' exact' (.here (.terminal kind))
    simpa [Begins.cons_iff] using front

/-- A rule that is only related to itself stays left recursive. -/
theorem leftRecursive {name : String} (simulation : Simulation alternatives others related)
    (itself : related (.rule name) (.rule name))
    (only : ∀ clause, related (.rule name) clause → clause = .rule name)
    (recursive : LeftRecursive alternatives name) : LeftRecursive others name := by
  rw [leftRecursive_iff_rewrites] at recursive ⊢
  obtain ⟨rest, steps⟩ := recursive
  obtain ⟨other', steps', same⟩ := simulation.transGen (.cons itself .nil) steps
  cases same with
  | cons first behind =>
    obtain rfl := only _ first
    exact ⟨_, steps'⟩

end Clause.Simulation

/-! ### Grammars -/

/-- Related clauses simulate one another. -/
structure Grammar.Bisimulation {K V V' C C' : Type} [TokenKind K] (grammar : Grammar K V C)
    (grammar' : Grammar K V' C') (related : Clause K → Clause K → Prop) : Prop where
  forth : Clause.Simulation grammar.alternatives grammar'.alternatives related
  back : Clause.Simulation grammar'.alternatives grammar.alternatives (Function.swap related)

namespace Grammar.Bisimulation

variable {K V V' C C' : Type} [TokenKind K] {grammar : Grammar K V C} {grammar' : Grammar K V' C'}
  {related : Clause K → Clause K → Prop} {clause clause' : Clause K}

theorem nullable_eq (bisimulation : Bisimulation grammar grammar' related)
    (resolved : grammar.Resolved) (resolved' : grammar'.Resolved) (alike : related clause clause') :
    grammar.nullable clause = grammar'.nullable clause' := by
  rw [Bool.eq_iff_iff, resolved.nullable_iff_derives_nil, resolved'.nullable_iff_derives_nil]
  exact ⟨bisimulation.forth.derives_nil alike, bisimulation.back.derives_nil alike⟩

theorem firstOf_eq (bisimulation : Bisimulation grammar grammar' related)
    (resolved : grammar.Resolved) (resolved' : grammar'.Resolved) (alike : related clause clause') :
    grammar.firstOf clause = grammar'.firstOf clause' := by
  have exact (clause : Clause K) := (resolved.nullable_iff_derives_nil clause).symm
  have exact' (clause : Clause K) := (resolved'.nullable_iff_derives_nil clause).symm
  refine KindSet.ext fun kind => ?_
  rw [resolved.coherent.mem_firstOf, resolved'.coherent.mem_firstOf]
  exact ⟨bisimulation.forth.begins alike exact exact', bisimulation.back.begins alike exact' exact⟩

theorem starts_eq (bisimulation : Bisimulation grammar grammar' related)
    (resolved : grammar.Resolved) (resolved' : grammar'.Resolved) (alike : related clause clause')
    (next : Option K) : grammar.starts clause next = grammar'.starts clause' next := by
  have same := bisimulation.firstOf_eq resolved resolved' alike
  cases next with
  | none => rfl
  | some kind =>
    rw [Bool.eq_iff_iff, starts, starts, Clause.starts_iff, Clause.starts_iff, ← firstOf, ← firstOf,
      same]

end Grammar.Bisimulation

end Lookahead
