import Lookahead.Proofs.Grammar.Reordering
import Lookahead.Proofs.Parser.Exactness
import Lookahead.Proofs.Parser.GoalStack

/-!
# The order of declaration

Where no two branches begin with the same kind it does not matter in which order they were declared.
The branch that the next token begins is the only one. Where there is none, the first branch that
can match nothing is taken, and whichever that is, it reads nothing and does not stop. So parses by
productions and by the same productions in another order go in lockstep, down to the error.

Main statement: `Grammar.parseTokens_reordered`.
-/

namespace Lookahead

/-- What is found in a list is related to what is found in the list in another order, if only one
item can be found there. -/
theorem Rearranges.rel_find? {α β : Type} {related : α → β → Prop} {list : List α} {other : List β}
    {accept : α → Bool} {accept' : β → Bool} (rearranges : Rearranges related list other)
    (alike : ∀ a b, related a b → accept a = accept' b)
    (only : ∀ b ∈ other, ∀ b' ∈ other, accept' b = true → accept' b' = true → b = b') :
    Option.Rel (fun a b => related a b ∧ b ∈ other) (list.find? accept) (other.find? accept') := by
  cases found : list.find? accept with
  | none =>
    have none : other.find? accept' = none := by
      rw [List.find?_eq_none]
      intro b member accepted
      obtain ⟨a, among, same⟩ := rearranges.exists_left member
      rw [← alike a b same] at accepted
      exact List.find?_eq_none.mp found a among accepted
    rw [none]
    exact .none
  | some a =>
    obtain ⟨b, member, same⟩ := rearranges.exists_right (List.mem_of_find?_eq_some found)
    have accepted : accept' b = true := alike a b same ▸ List.find?_some found
    have some : (other.find? accept').isSome := List.find?_isSome.mpr ⟨b, member, accepted⟩
    obtain ⟨first, found'⟩ := Option.isSome_iff_exists.mp some
    have listed := List.mem_of_find?_eq_some found'
    -- The first item that is accepted is the related one, as there is no other.
    rw [found', only first listed b member (List.find?_some found') accepted]
    exact .some ⟨same, member⟩

namespace Grammar

variable {K V V' C C' : Type} [TokenKind K] {grammar : Grammar K V C} {grammar' : Grammar K V' C'}

/-- The members of every choice in the clause begin with different kinds. -/
def ApartInside (grammar : Grammar K V C) (clause : Clause K) : Prop :=
  ∀ place members, clause.at? place = some (.choice members) → grammar.Apart members

theorem ApartInside.part {clause part : Clause K} (apart : grammar.ApartInside clause)
    (member : part ∈ clause.parts) : grammar.ApartInside part := by
  intro place members there
  obtain ⟨index, found⟩ := List.mem_iff_getElem?.mp member
  exact apart (index :: place) members (Clause.at?_cons_eq_some.mpr ⟨part, found, there⟩)

theorem ApartInside.zeroOrMore {body : Clause K} (apart : grammar.ApartInside body) :
    grammar.ApartInside (.zeroOrMore body) := by
  intro place members there
  cases place with
  | nil => cases there
  | cons index path =>
    obtain ⟨part, found, inside⟩ := Clause.at?_cons_eq_some.mp there
    obtain rfl := List.mem_singleton.mp (List.mem_of_getElem? found)
    exact apart path members inside

theorem apartInside_rule (name : String) : grammar.ApartInside (.rule name) := by
  intro place members there
  cases place with
  | nil => cases there
  | cons index path => simp [Clause.at?, Clause.parts] at there

/-- No two branches begin with the same kind, neither alternatives of one rule nor members of one
choice. -/
structure Unambiguous (grammar : Grammar K V C) : Prop where
  alternatives (name : String) : grammar.Apart ((grammar.alternatives name).map .sequence)
  choices {name : String} {clauses : List (Clause K)} :
    clauses ∈ grammar.alternatives name → ∀ clause ∈ clauses, grammar.ApartInside clause

/-- The goals stand in one rule, and the second one is the first one with choices reordered in which
no two members begin with the same kind. -/
def Rearranged (grammar' : Grammar K V' C') (goal goal' : Goal K) : Prop :=
  goal.rule = goal'.rule ∧ goal.clause.Reorders goal'.clause ∧ grammar'.ApartInside goal'.clause

theorem rearranged_list (rule : String) {items items' : List (Clause K)}
    (lists : List.Forall₂ Clause.Reorders items items')
    (apart : ∀ item ∈ items', grammar'.ApartInside item) :
    List.Forall₂ grammar'.Rearranged (Goal.list rule items) (Goal.list rule items') := by
  induction lists with
  | nil => exact .nil
  | cons first _ ih =>
    obtain ⟨here, later⟩ := List.forall_mem_cons.mp apart
    exact .cons ⟨rfl, first, here⟩ (ih later)

/-! ### Grammars of reordered productions -/

section Resolved

variable {declared : List (SemanticProduction K V C)}
  {declared' : List (SemanticProduction K V' C')} {policy : OverlapPolicy}
  {pending : List (GrammarIssue K)}

theorem apart_iff_separate
    (came : (Grammar.resolve policy pending declared).value = some grammar)
    {branches : List (Clause K)} :
    grammar.Apart branches ↔ Production.Separate (Resolve.bare declared) branches := by
  obtain ⟨rfl, -, acyclic⟩ := resolve_eq_some came
  obtain ⟨rank, ranking⟩ := Analysis.exists_ranking acyclic
  refine List.Pairwise.iff fun earlier later => ?_
  simp only [← Resolve.mem_firstOf_grammar ranking, ← KindSet.mem_inter]
  constructor
  · intro none kind shared
    rw [none] at shared
    exact KindSet.not_mem_empty shared
  · intro none
    exact KindSet.ext fun kind => iff_of_false (none kind) KindSet.not_mem_empty

theorem isSome_resolve_iff_resolvable :
    (Grammar.resolve policy [] declared).value.isSome = true ↔
      Resolvable policy (Resolve.bare declared) := by
  have fatal : ∀ issue ∈ ([] : List (GrammarIssue K)),
      (GrammarIssue.diagnostic policy issue).isFatal = true := by simp
  rw [Resolve.isSome_resolve_iff fatal, and_iff_right rfl]

/-- What is resolved under `reject` is unambiguous. -/
theorem unambiguous_of_resolve
    (came : (Grammar.resolve .reject [] declared).value = some grammar) :
    grammar.Unambiguous := by
  have resolvable := isSome_resolve_iff_resolvable.mp (Option.isSome_iff_exists.mpr ⟨_, came⟩)
  obtain ⟨rules, choices⟩ := Production.no_overlaps_iff.mp (resolvable.apart rfl)
  have same := alternatives_of_resolve came
  refine ⟨fun name => ?_, fun {name clauses} member clause among place members there => ?_⟩
  · rw [same, apart_iff_separate came]
    exact rules name
  · rw [same] at member
    obtain ⟨production, listed, rfl, rfl⟩ := Production.mem_alternatives.mp member
    obtain ⟨index, found⟩ := List.mem_iff_getElem?.mp among
    exact (apart_iff_separate came).mpr (choices production listed (index :: place) members
      (Clause.at?_cons_eq_some.mpr ⟨clause, found, there⟩))

end Resolved

/-! ### Lockstep -/

/-- Grammars whose rules have related alternatives, where the second one is unambiguous. -/
structure Reordering (grammar : Grammar K V C) (grammar' : Grammar K V' C') : Prop where
  resolved : grammar.Resolved
  resolved' : grammar'.Resolved
  bisimulation : Bisimulation grammar grammar' Clause.Reorders
  alternatives (name : String) : Rearranges (List.Forall₂ Clause.Reorders)
    (grammar.alternatives name) (grammar'.alternatives name)
  unambiguous : grammar'.Unambiguous

namespace Reordering

theorem of_resolve {declared : List (SemanticProduction K V C)}
    {declared' : List (SemanticProduction K V' C')}
    (came : (Grammar.resolve .reject [] declared).value = some grammar)
    (came' : (Grammar.resolve .reject [] declared').value = some grammar')
    (reordered : Production.Reordered (Resolve.bare declared) (Resolve.bare declared')) :
    Reordering grammar grammar' := by
  have same := alternatives_of_resolve came
  have same' := alternatives_of_resolve came'
  have forth := reordered.simulation
  have back := reordered.symm.simulation
  rw [← same, ← same'] at forth back
  refine ⟨⟨_, _, _, came⟩, ⟨_, _, _, came'⟩, ⟨forth, ?_⟩, fun name => ?_,
    unambiguous_of_resolve came'⟩
  · rwa [Clause.Reorders.swap_eq]
  · rw [same, same']
    exact reordered.alternatives name

variable (reordering : Reordering grammar grammar') {clause clause' : Clause K}

include reordering

theorem starts_eq (reorders : clause.Reorders clause') (next : Option K) :
    grammar.starts clause next = grammar'.starts clause' next :=
  reordering.bisimulation.starts_eq reordering.resolved reordering.resolved' reorders next

/-- The alternative that the next token begins is taken in both grammars. -/
theorem rel_find?_alternatives (name : String) (next : Option K) :
    Option.Rel (fun clauses clauses' => List.Forall₂ Clause.Reorders clauses clauses' ∧
        clauses' ∈ grammar'.alternatives name)
      ((grammar.alternatives name).find? fun clauses => grammar.starts (.sequence clauses) next)
      ((grammar'.alternatives name).find? fun clauses =>
        grammar'.starts (.sequence clauses) next) := by
  refine (reordering.alternatives name).rel_find?
    (fun clauses clauses' lists => reordering.starts_eq (.sequence lists) next) ?_
  intro clauses member other among starts begins
  exact Clause.sequence.inj ((reordering.unambiguous.alternatives name).eq_of_starts
    (List.mem_map_of_mem member) (List.mem_map_of_mem among) starts begins)

/-- A step does the same with rearranged goals. -/
theorem goalsIn? {goal goal' : Goal K} (alike : grammar'.Rearranged goal goal') (next : Option K) :
    Option.Rel (List.Forall₂ grammar'.Rearranged) (grammar.goalsIn? next goal)
      (grammar'.goalsIn? next goal') := by
  obtain ⟨rule, clause⟩ := goal
  obtain ⟨_, clause'⟩ := goal'
  obtain ⟨rfl, reorders, apart⟩ := alike
  have inside : ∀ part ∈ clause'.parts, grammar'.ApartInside part := fun _ => apart.part
  have loop {body body' : Clause K} (inner : body.Reorders body')
      (apart : grammar'.ApartInside body') :
      List.Forall₂ grammar'.Rearranged (Goal.list rule [body, .zeroOrMore body])
        (Goal.list rule [body', .zeroOrMore body']) :=
    rearranged_list rule (.cons inner (.cons (.zeroOrMore inner) .nil))
      (List.forall_mem_cons.mpr ⟨apart, List.forall_mem_singleton.mpr apart.zeroOrMore⟩)
  cases reorders with
  | terminal kind => exact .none
  | rule name =>
    refine rel_map (reordering.rel_find?_alternatives name next) fun clauses clauses' found => ?_
    exact rearranged_list name found.1 (reordering.unambiguous.choices found.2)
  | sequence lists => exact .some (rearranged_list rule lists inside)
  | choice lists order =>
    have apart_members := apart [] _ rfl
    have found := Rearranges.rel_find? ⟨_, lists, order⟩
      (fun member member' same => reordering.starts_eq same next)
      (fun member among member' among' starts begins =>
        apart_members.eq_of_starts among among' starts begins)
    refine rel_map found fun member member' found => ?_
    exact rearranged_list rule (.cons found.1 .nil)
      (List.forall_mem_singleton.mpr (inside _ found.2))
  | zeroOrMore inner => exact .some (loop inner (inside _ List.mem_cons_self))
  | @oneOrMore body body' inner =>
    simp only [Grammar.goalsIn?, ← reordering.starts_eq inner]
    split
    · exact .some (loop inner (inside _ List.mem_cons_self))
    · exact .none
  | optional inner => exact .some (rearranged_list rule (.cons inner .nil) inside)
  | group label inner => exact .some (rearranged_list rule (.cons inner .nil) inside)

theorem lockstep : Lockstep grammar grammar' grammar'.Rearranged where
  starts alike := reordering.starts_eq alike.2.1
  nullable alike :=
    reordering.bisimulation.nullable_eq reordering.resolved reordering.resolved' alike.2.1
  terminal {goal goal' kind} alike same := by
    obtain ⟨-, reorders, -⟩ := alike
    rw [same] at reorders
    generalize goal'.clause = clause' at reorders
    cases reorders
    rfl
  goalsIn? alike _ := reordering.goalsIn? alike _

theorem blame_eq {goal goal' : Goal K} (alike : grammar'.Rearranged goal goal') :
    grammar.blame goal = grammar'.blame goal' := by
  obtain ⟨rule, clause⟩ := goal
  obtain ⟨_, clause'⟩ := goal'
  obtain ⟨rfl, reorders, -⟩ := alike
  have owner : Goal.owner ⟨rule, clause⟩ = Goal.owner ⟨rule, clause'⟩ := by
    cases reorders <;> rfl
  rw [blame, blame, owner,
    reordering.bisimulation.firstOf_eq reordering.resolved reordering.resolved' reorders]

end Reordering

/-- Under `reject` the order of declaration does not matter. If productions are resolved, so are the
same productions in another order, with the members of choices in another order too, unless a rule
has the same alternative twice then. From every start rule both grammars agree on whether there is an
error and which, on how many tokens are read and on whether these are all. -/
theorem parseTokens_reordered {declared : List (SemanticProduction K V C)}
    {declared' : List (SemanticProduction K V' C')}
    (came : (Grammar.resolve .reject [] declared).value = some grammar)
    (reordered : Production.Reordered (Resolve.bare declared) (Resolve.bare declared'))
    (distinct : ∀ name, (Production.alternatives (Resolve.bare declared') name).Nodup) :
    ∃ grammar', (Grammar.resolve .reject [] declared').value = some grammar' ∧
      ∀ start tokens context context',
        let result := (grammar.parseTokens tokens start context).1
        let result' := (grammar'.parseTokens tokens start context').1
        result.isError = result'.isError ∧ result.endingPosition = result'.endingPosition ∧
          result.isEnded = result'.isEnded ∧ result.errors = result'.errors := by
  have resolvable := isSome_resolve_iff_resolvable.mp (Option.isSome_iff_exists.mpr ⟨_, came⟩)
  obtain ⟨grammar', came'⟩ := Option.isSome_iff_exists.mp
    (isSome_resolve_iff_resolvable.mpr (resolvable.of_reordered reordered distinct))
  have reordering := Reordering.of_resolve came came' reordered
  refine ⟨grammar', came', fun start tokens context context' => ?_⟩
  have names : start ∈ grammar.ruleNames ↔ start ∈ grammar'.ruleNames := by
    rw [ruleNames_of_resolve came, ruleNames_of_resolve came']
    exact ⟨reordered.mem_names, reordered.symm.mem_names⟩
  by_cases defined : start ∈ grammar.ruleNames
  · have itself : grammar'.Rearranged ⟨start, .rule start⟩ ⟨start, .rule start⟩ :=
      ⟨rfl, .rule start, apartInside_rule start⟩
    obtain ⟨cause, cause', rest, reports, reports', causes⟩ :=
      reordering.lockstep.parseTokens reordering.resolved.coherent reordering.resolved'.coherent
        defined (names.mp defined) itself tokens context context'
    have same : cause = cause' := by
      cases causes with
      | none => rfl
      | some blamed =>
        obtain ⟨goal, goal', alike, rfl, rfl⟩ := blamed
        rw [reordering.blame_eq alike]
    subst same
    have errors := reports.errors.trans reports'.errors.symm
    exact ⟨by rw [ParseResult.isError, ParseResult.isError, errors],
      reports.endingPosition.trans reports'.endingPosition.symm,
      reports.isEnded.trans reports'.isEnded.symm, errors⟩
  · -- From a name without a rule both parses fail at once.
    have missing {V C : Type} {grammar : Grammar K V C} (undefined : start ∉ grammar.ruleNames) :
        grammar.rule? start = none := by
      rw [mem_ruleNames, ← Option.isSome_iff_exists] at undefined
      simpa using undefined
    intro result result'
    have result_eq : result = .failed (.unknownRule start) 0 :=
      congrArg Prod.fst (parseTokens_of_none (missing defined) tokens context)
    have result_eq' : result' = .failed (.unknownRule start) 0 :=
      congrArg Prod.fst (parseTokens_of_none (missing (mt names.mpr defined)) tokens context')
    rw [result_eq, result_eq']
    exact ⟨rfl, rfl, rfl, rfl⟩

end Grammar

namespace Sample

/-- Lines begin with a word or a bracket. Both alternatives of what stands behind can match
nothing. -/
def lines : List (SemanticProduction Mark Nat Unit) :=
  [⟨⟨"line", [.choice [.terminal .word, .terminal .opening], .rule "tail"]⟩, fun _ _ => (0, ())⟩,
    ⟨⟨"tail", []⟩, fun _ _ => (1, ())⟩,
    ⟨⟨"tail", [.optional (.terminal .comma)]⟩, fun _ _ => (2, ())⟩]

/-- Lines with the alternatives and the members of the choice in another order. -/
def turned : List (SemanticProduction Mark Nat Unit) :=
  [⟨⟨"tail", [.optional (.terminal .comma)]⟩, fun _ _ => (2, ())⟩,
    ⟨⟨"line", [.choice [.terminal .opening, .terminal .word], .rule "tail"]⟩, fun _ _ => (0, ())⟩,
    ⟨⟨"tail", []⟩, fun _ _ => (1, ())⟩]

theorem reordered_lines :
    Production.Reordered (Resolve.bare lines) (Resolve.bare turned) := by
  have line : Production.Reorders
      ⟨"line", [.choice [.terminal Mark.word, .terminal .opening], .rule "tail"]⟩
      ⟨"line", [.choice [.terminal .opening, .terminal .word], .rule "tail"]⟩ :=
    ⟨rfl, .cons (.choice (.cons (.terminal _) (.cons (.terminal _) .nil)) (.swap _ _ _))
      (.cons (.rule _) .nil)⟩
  have empty : Production.Reorders (⟨"tail", []⟩ : Production Mark) ⟨"tail", []⟩ := ⟨rfl, .nil⟩
  have comma : Production.Reorders (⟨"tail", [.optional (.terminal Mark.comma)]⟩)
      ⟨"tail", [.optional (.terminal .comma)]⟩ :=
    ⟨rfl, .cons (.optional (.terminal _)) .nil⟩
  exact ⟨_, .cons line (.cons empty (.cons comma .nil)),
    (List.Perm.cons _ (.swap _ _ _)).trans (.swap _ _ _)⟩

end Sample

/-- Lines are parsed alike whichever way the alternatives and members are declared. -/
theorem Grammar.parseTokens_reordered_lines :
    ∃ grammar grammar', (Grammar.resolve .reject [] Sample.lines).value = some grammar ∧
      Production.Reordered (Resolve.bare Sample.lines) (Resolve.bare Sample.turned) ∧
      (∀ name, (Production.alternatives (Resolve.bare Sample.turned) name).Nodup) ∧
      (Grammar.resolve .reject [] Sample.turned).value = some grammar' ∧
      ∀ tokens, (grammar.parseTokens tokens "line" ()).1.errors =
        (grammar'.parseTokens tokens "line" ()).1.errors := by
  have distinct : ∀ name, (Production.alternatives (Resolve.bare Sample.turned) name).Nodup :=
    Resolve.duplicates_eq_nil_iff.mp rfl
  have came : (Grammar.resolve .reject [] Sample.lines).value =
      some (Resolve.grammar Sample.lines) := rfl
  obtain ⟨grammar', came', alike⟩ :=
    parseTokens_reordered came Sample.reordered_lines distinct
  exact ⟨_, grammar', came, Sample.reordered_lines, distinct, came',
    fun tokens => (alike "line" tokens () ()).2.2.2⟩

end Lookahead
