import Lookahead.Proofs.Grammar.Occurrence
import Lookahead.Proofs.Grammar.Simulation

/-!
# Constructs as rules of their own

The constructs of extended BNF can be written with rules alone: in the place of a choice, an option
or a loop stands a new rule, whose alternatives say what the construct stands for. A loop becomes a
rule that mentions itself. The clause and the rule in its place derive the same, whatever stands
around them.

Main statement: `Grammar.Extracts.bisimulation`.
-/

namespace Lookahead

namespace Clause

variable {K : Type}

/-- The alternatives of the rule `name` that stands for a construct. -/
def expansion? (name : String) : Clause K → Option (List (List (Clause K)))
  | .choice members => some (members.map ([·]))
  | .optional body => some [[body], []]
  | .zeroOrMore body => some [[body, .rule name], []]
  | .oneOrMore body => some [[body, .zeroOrMore body]]
  | _ => none

/-- The second clause is the first one with one occurrence of `old` replaced by `new`. -/
inductive Replaces (old new : Clause K) : Clause K → Clause K → Prop
  | here : Replaces old new old new
  | sequence {clause clause'} (before after) :
      Replaces old new clause clause' →
      Replaces old new (.sequence (before ++ clause :: after))
        (.sequence (before ++ clause' :: after))
  | choice {clause clause'} (before after) :
      Replaces old new clause clause' →
      Replaces old new (.choice (before ++ clause :: after)) (.choice (before ++ clause' :: after))
  | zeroOrMore {body body'} :
      Replaces old new body body' → Replaces old new (.zeroOrMore body) (.zeroOrMore body')
  | oneOrMore {body body'} :
      Replaces old new body body' → Replaces old new (.oneOrMore body) (.oneOrMore body')
  | optional {body body'} :
      Replaces old new body body' → Replaces old new (.optional body) (.optional body')
  | group {body body'} (label) :
      Replaces old new body body' → Replaces old new (.group body label) (.group body' label)

/-- The second clause is the first one with occurrences of `construct` replaced by the rule `name`,
which the first one does not mention. -/
inductive Folds (construct : Clause K) (name : String) : Clause K → Clause K → Prop
  | fold : Folds construct name construct (.rule name)
  | terminal (kind) : Folds construct name (.terminal kind) (.terminal kind)
  | rule {other} : other ≠ name → Folds construct name (.rule other) (.rule other)
  | sequence {items items'} :
      List.Forall₂ (Folds construct name) items items' →
      Folds construct name (.sequence items) (.sequence items')
  | choice {members members'} :
      List.Forall₂ (Folds construct name) members members' →
      Folds construct name (.choice members) (.choice members')
  | zeroOrMore {body body'} :
      Folds construct name body body' → Folds construct name (.zeroOrMore body) (.zeroOrMore body')
  | oneOrMore {body body'} :
      Folds construct name body body' → Folds construct name (.oneOrMore body) (.oneOrMore body')
  | optional {body body'} :
      Folds construct name body body' → Folds construct name (.optional body) (.optional body')
  | group {body body'} (label) :
      Folds construct name body body' →
      Folds construct name (.group body label) (.group body' label)

variable {construct clause clause' : Clause K} {name : String}

/-- A construct has become the rule, or the clause is made from others in the same way as before. -/
theorem Folds.cases (folds : Folds construct name clause clause') :
    clause = construct ∧ clause' = .rule name ∨
      clause' ≠ .rule name ∧ Resembles (Folds construct name) clause clause' ∧
        Resembles (Function.swap (Folds construct name)) clause' clause := by
  cases folds with
  | fold => exact Or.inl ⟨rfl, rfl⟩
  | terminal kind => exact Or.inr ⟨by simp, .terminal kind, .terminal kind⟩
  | rule different => exact Or.inr ⟨by simpa using different, .rule _, .rule _⟩
  | sequence lists => exact Or.inr ⟨by simp, .sequence lists, .sequence lists.flip⟩
  | choice lists =>
    exact Or.inr ⟨by simp, .choice fun _ among => exists_mem_of_forall₂ lists among,
      .choice fun _ among => exists_mem_of_forall₂ lists.flip among⟩
  | zeroOrMore inner =>
    exact Or.inr ⟨by simp, .zeroOrMore inner (.zeroOrMore inner),
      .zeroOrMore inner (.zeroOrMore inner)⟩
  | oneOrMore inner =>
    exact Or.inr ⟨by simp, .oneOrMore inner (.zeroOrMore inner),
      .oneOrMore inner (.zeroOrMore inner)⟩
  | optional inner => exact Or.inr ⟨by simp, .optional inner, .optional inner⟩
  | group label inner => exact Or.inr ⟨by simp, .group label label inner, .group label label inner⟩

theorem not_mem_ruleNames {clauses : List (Clause K)} (unused : name ∉ ruleNamesAll clauses)
    (member : clause ∈ clauses) : name ∉ clause.ruleNames :=
  fun mentioned => unused (mem_ruleNamesAll.mpr ⟨clause, member, mentioned⟩)

/-- A clause that does not mention the rule can be left as it is. -/
theorem folds_self (clause : Clause K) (unused : name ∉ clause.ruleNames) :
    Folds construct name clause clause := by
  induction clause with
  | terminal kind => exact .terminal kind
  | rule other =>
    refine .rule ?_
    rintro rfl
    exact unused List.mem_cons_self
  | sequence items ih =>
    exact .sequence (List.forall₂_same.mpr fun item member =>
      ih item member (not_mem_ruleNames unused member))
  | choice members ih =>
    exact .choice (List.forall₂_same.mpr fun member among =>
      ih member among (not_mem_ruleNames unused among))
  | zeroOrMore body ih => exact .zeroOrMore (ih unused)
  | oneOrMore body ih => exact .oneOrMore (ih unused)
  | optional body ih => exact .optional (ih unused)
  | group body label ih => exact .group label (ih unused)

theorem forall₂_folds_self {clauses : List (Clause K)} (unused : name ∉ ruleNamesAll clauses) :
    List.Forall₂ (Folds construct name) clauses clauses :=
  List.forall₂_same.mpr fun clause member => folds_self clause (not_mem_ruleNames unused member)

/-- Around an occurrence the clauses are left as they are. -/
theorem forall₂_replaced {before after : List (Clause K)}
    (inner : Folds construct name clause clause')
    (unused : name ∉ ruleNamesAll (before ++ clause :: after)) :
    List.Forall₂ (Folds construct name) (before ++ clause :: after)
      (before ++ clause' :: after) := by
  have itself {other : Clause K} (member : other ∈ before ++ clause :: after) :
      Folds construct name other other := folds_self other (not_mem_ruleNames unused member)
  exact List.rel_append (List.forall₂_same.mpr fun other among => itself (by simp [among]))
    (.cons inner (List.forall₂_same.mpr fun other among => itself (by simp [among])))

/-- To replace one occurrence is to replace occurrences. -/
theorem Replaces.folds (replaces : Replaces construct (.rule name) clause clause')
    (unused : name ∉ clause.ruleNames) : Folds construct name clause clause' := by
  induction replaces with
  | here => exact .fold
  | sequence before after _ ih =>
    exact .sequence (forall₂_replaced (ih (not_mem_ruleNames unused (by simp))) unused)
  | choice before after _ ih =>
    exact .choice (forall₂_replaced (ih (not_mem_ruleNames unused (by simp))) unused)
  | zeroOrMore _ ih => exact .zeroOrMore (ih unused)
  | oneOrMore _ ih => exact .oneOrMore (ih unused)
  | optional _ ih => exact .optional (ih unused)
  | group label _ ih => exact .group label (ih unused)

/-- What is replaced in a clause mentions rules of the clause. -/
theorem Replaces.ruleNames_subset {new : Clause K} (replaces : Replaces construct new clause clause') :
    construct.ruleNames ⊆ clause.ruleNames := by
  induction replaces with
  | here => exact List.Subset.refl _
  | @sequence clause clause' before after _ ih =>
    exact fun inner mentioned => mem_ruleNamesAll.mpr ⟨clause, by simp, ih mentioned⟩
  | @choice clause clause' before after _ ih =>
    exact fun inner mentioned => mem_ruleNamesAll.mpr ⟨clause, by simp, ih mentioned⟩
  | zeroOrMore _ ih => exact ih
  | oneOrMore _ ih => exact ih
  | optional _ ih => exact ih
  | group _ _ ih => exact ih

end Clause

/-! ### Derivations -/

section Derivations

variable {K : Type} {alternatives alternatives' : String → List (List (Clause K))}
  {construct : Clause K} {name : String}

/-- The rule `name` of the second alternatives stands for the construct in the first ones. -/
structure Folding (alternatives alternatives' : String → List (List (Clause K)))
    (construct : Clause K) (name : String) : Prop where
  unused : name ∉ construct.ruleNames
  expanded : construct.expansion? name = some (alternatives' name)
  others {other : String} : other ≠ name →
    List.Forall₂ (List.Forall₂ (Clause.Folds construct name)) (alternatives other)
      (alternatives' other)

namespace Folding

variable (folding : Folding alternatives alternatives' construct name)

include folding

/-- A construct is expanded to what the alternatives of its rule say. -/
theorem exists_alternative {expansion : List (Clause K)}
    (expands : construct.Expands alternatives expansion) :
    ∃ clauses ∈ alternatives' name,
      List.Forall₂ (Clause.Folds construct name) expansion clauses := by
  obtain ⟨unused, expanded, -⟩ := folding
  cases expands with
  | rule => cases expanded
  | sequence => cases expanded
  | group => cases expanded
  | choice among =>
    rw [← Option.some.inj expanded]
    exact ⟨_, List.mem_map_of_mem among,
      .cons (Clause.folds_self _ (Clause.not_mem_ruleNames unused among)) .nil⟩
  | stop | absent =>
    rw [← Option.some.inj expanded]
    exact ⟨[], by simp, .nil⟩
  | more body =>
    rw [← Option.some.inj expanded]
    exact ⟨_, List.mem_cons_self, .cons (Clause.folds_self body unused) (.cons .fold .nil)⟩
  | oneOrMore body =>
    rw [← Option.some.inj expanded]
    exact ⟨_, List.mem_cons_self, .cons (Clause.folds_self body unused)
      (.cons (Clause.folds_self (.zeroOrMore body) unused) .nil)⟩
  | present body =>
    rw [← Option.some.inj expanded]
    exact ⟨_, List.mem_cons_self, .cons (Clause.folds_self body unused) .nil⟩

/-- The alternatives of its rule say no more than what a construct is expanded to. -/
theorem exists_expansion {clauses : List (Clause K)} (member : clauses ∈ alternatives' name) :
    ∃ expansion, construct.Expands alternatives expansion ∧
      List.Forall₂ (Clause.Folds construct name) expansion clauses := by
  obtain ⟨unused, expanded, -⟩ := folding
  cases construct with
  | terminal | rule | sequence | group => cases expanded
  | choice members =>
    rw [← Option.some.inj expanded] at member
    obtain ⟨member, among, rfl⟩ := List.mem_map.mp member
    exact ⟨_, .choice among,
      .cons (Clause.folds_self _ (Clause.not_mem_ruleNames unused among)) .nil⟩
  | zeroOrMore body =>
    rw [← Option.some.inj expanded, List.mem_pair] at member
    rcases member with rfl | rfl
    · exact ⟨_, .more body, .cons (Clause.folds_self body unused) (.cons .fold .nil)⟩
    · exact ⟨_, .stop body, .nil⟩
  | oneOrMore body =>
    rw [← Option.some.inj expanded, List.mem_singleton] at member
    subst member
    exact ⟨_, .oneOrMore body, .cons (Clause.folds_self body unused)
      (.cons (Clause.folds_self (.zeroOrMore body) unused) .nil)⟩
  | optional body =>
    rw [← Option.some.inj expanded, List.mem_pair] at member
    rcases member with rfl | rfl
    · exact ⟨_, .present body, .cons (Clause.folds_self body unused) .nil⟩
    · exact ⟨_, .absent body, .nil⟩

/-- What a clause is expanded to, it is expanded to with the rule in the place of the construct. -/
theorem forth : Clause.Simulation alternatives alternatives' (Clause.Folds construct name) where
  terminal {kind clause} folds := by
    rcases folds.cases with ⟨rfl, rfl⟩ | ⟨-, resembles, -⟩
    · cases folding.expanded
    · cases resembles
      rfl
  expands {clause clause' expansion} folds expands := by
    rcases folds.cases with ⟨rfl, rfl⟩ | ⟨different, resembles, -⟩
    · obtain ⟨clauses, member, alike⟩ := folding.exists_alternative expands
      exact ⟨clauses, .rule member, alike⟩
    · refine resembles.expands (fun other same clauses member => ?_) expands
      subst same
      cases resembles
      exact exists_mem_of_forall₂ (folding.others fun same => different (same ▸ rfl)) member

/-- What a clause with the rule in the place of the construct is expanded to, so is the clause. -/
theorem back : Clause.Simulation alternatives' alternatives
    (Function.swap (Clause.Folds construct name)) where
  terminal {kind clause} folds := by
    rcases folds.cases with ⟨-, same⟩ | ⟨-, -, resembles⟩
    · cases same
    · cases resembles
      rfl
  expands {clause' clause expansion} folds expands := by
    rcases folds.cases with ⟨rfl, rfl⟩ | ⟨different, -, resembles⟩
    · cases expands with
      | rule member =>
        obtain ⟨expansion, expands, alike⟩ := folding.exists_expansion member
        exact ⟨expansion, expands, alike.flip⟩
    · refine resembles.expands (fun other same clauses member => ?_) expands
      subst same
      obtain ⟨clauses', among, alike⟩ := exists_mem_of_forall₂
        (folding.others fun same => different (same ▸ rfl)).flip member
      exact ⟨clauses', among, alike.flip⟩

end Folding

end Derivations

/-! ### Grammars -/

namespace Grammar

variable {K V V' C C' : Type} [TokenKind K] {grammar : Grammar K V C} {grammar' : Grammar K V' C'}
  {construct : Clause K} {name : String}

/-- In the second grammar one occurrence of the construct is a rule `name` of its own, which the
first grammar does not have. -/
structure Extracts (grammar : Grammar K V C) (grammar' : Grammar K V' C') (construct : Clause K)
    (name : String) : Prop where
  fresh : name ∉ grammar.ruleNames
  expanded : construct.expansion? name = some (grammar'.alternatives name)
  occurrence : ∃ owner before clauses clauses' after,
    grammar.alternatives owner = before ++ clauses :: after ∧
      grammar'.alternatives owner = before ++ clauses' :: after ∧
      Clause.Replaces construct (.rule name) (.sequence clauses) (.sequence clauses') ∧
      ∀ other, other ≠ owner → other ≠ name →
        grammar'.alternatives other = grammar.alternatives other

/-- No alternative mentions a rule that the grammar does not have. -/
theorem Coherent.not_mentioned (coherent : grammar.Coherent) (fresh : name ∉ grammar.ruleNames)
    {owner : String} {clauses : List (Clause K)} (member : clauses ∈ grammar.alternatives owner) :
    name ∉ Clause.ruleNamesAll clauses :=
  fun mentioned => fresh (coherent.defined member mentioned)

theorem Extracts.folding (extracts : Extracts grammar grammar' construct name)
    (coherent : grammar.Coherent) :
    Folding grammar.alternatives grammar'.alternatives construct name := by
  obtain ⟨fresh, expanded, owner, before, clauses, clauses', after, whole, whole', replaces, rest⟩ :=
    extracts
  have same {alternatives : List (List (Clause K))}
      (listed : ∀ clauses ∈ alternatives, ∃ owner, clauses ∈ grammar.alternatives owner) :
      List.Forall₂ (List.Forall₂ (Clause.Folds construct name)) alternatives alternatives := by
    refine List.forall₂_same.mpr fun clauses member => ?_
    obtain ⟨owner, among⟩ := listed clauses member
    exact Clause.forall₂_folds_self (coherent.not_mentioned fresh among)
  have member : clauses ∈ grammar.alternatives owner := by simp [whole]
  have unused : name ∉ Clause.ruleNamesAll clauses := coherent.not_mentioned fresh member
  refine ⟨fun mentioned => unused (replaces.ruleNames_subset mentioned), expanded,
    fun {other} different => ?_⟩
  by_cases own : other = owner
  · subst own
    have here : List.Forall₂ (Clause.Folds construct name) clauses clauses' := by
      rcases (replaces.folds unused).cases with ⟨-, same⟩ | ⟨-, resembles, -⟩
      · cases same
      · cases resembles
        assumption
    rw [whole, whole']
    exact List.rel_append (same fun _ among => ⟨other, by simp [whole, among]⟩)
      (.cons here (same fun _ among => ⟨other, by simp [whole, among]⟩))
  · rw [rest other own different]
    exact same fun _ among => ⟨other, among⟩

/-- A rule of a resolved grammar has an alternative. -/
theorem Resolved.exists_alternative (resolved : grammar.Resolved) {owner : String}
    (defined : owner ∈ grammar.ruleNames) : ∃ clauses, clauses ∈ grammar.alternatives owner := by
  obtain ⟨policy, pending, productions, came⟩ := resolved
  rw [ruleNames_of_resolve came] at defined
  obtain ⟨production, declared, rfl⟩ := Production.mem_names.mp defined
  rw [alternatives_of_resolve came]
  exact ⟨_, Production.mem_alternatives.mpr ⟨production, declared, rfl, rfl⟩⟩

/-- The rules of the old grammar are rules of the new one. -/
theorem Extracts.defined (extracts : Extracts grammar grammar' construct name)
    (resolved : grammar.Resolved) {owner : String} (defined : owner ∈ grammar.ruleNames) :
    owner ∈ grammar'.ruleNames := by
  have different : owner ≠ name := by
    rintro rfl
    exact extracts.fresh defined
  obtain ⟨clauses, member⟩ := resolved.exists_alternative defined
  obtain ⟨clauses', member', -⟩ :=
    exists_mem_of_forall₂ ((extracts.folding resolved.coherent).others different) member
  obtain ⟨rule, found, -⟩ := exists_rule_of_mem_alternatives member'
  exact mem_ruleNames.mpr ⟨rule, found⟩

/-- The construct and the rule in its place derive the same. -/
theorem Extracts.bisimulation (extracts : Extracts grammar grammar' construct name)
    (coherent : grammar.Coherent) :
    Bisimulation grammar grammar' (Clause.Folds construct name) :=
  ⟨(extracts.folding coherent).forth, (extracts.folding coherent).back⟩

end Grammar

end Lookahead
