import Lookahead.Grammar.Builder
import Lookahead.Proofs.Grammar.Overlap
import Lookahead.Proofs.Grammar.ShortestCycle

/-!
# When a builder has a grammar

What is added to a builder is resolved into a grammar just if nothing that was added is wrong by
itself and the productions fit together. Each check of the build is for one of these conditions,
and it finds nothing exactly where the condition holds. The grammar has the productions in the
order in which they were added.

Main statement: `GrammarBuilder.resolve_exact`.
-/

namespace Lookahead

open Relation

/-- What can be added to a builder. -/
inductive Declaration (K V C : Type) where
  | given (production : SemanticProduction K V C)
  | text (text : List Char) (action : Action K V C)

/-- The production that is added, unless it is written as a text that is none. -/
def Declaration.production? {K V C : Type} (kind? : String → Option K) :
    Declaration K V C → Option (SemanticProduction K V C)
  | .given production => some production
  | .text written action =>
    (ProductionText.read kind? written).toOption.map fun production => ⟨production, action⟩

/-- What is wrong with a text that is no production. -/
def Declaration.issue? {K V C : Type} [TokenKind K] (kind? : String → Option K) :
    Declaration K V C → Option (GrammarIssue K)
  | .given _ => none
  | .text written _ =>
    match ProductionText.read kind? written with
    | .ok _ => none
    | .error error => some (.invalidText written error)

/-- What productions have to fulfil to become a grammar. -/
structure Resolvable {K : Type} [TokenKind K] (policy : OverlapPolicy)
    (productions : List (Production K)) : Prop where
  inhabited : productions ≠ []
  defined : ∀ production ∈ productions, ∀ place name,
    (Clause.sequence production.clauses).at? place = some (.rule name) →
      ∃ other ∈ productions, other.rule = name
  distinct : ∀ name, (Production.alternatives productions name).Nodup
  acyclic : ∀ name rest, ¬ TransGen (Form.Rewrites (Production.alternatives productions))
    [.rule name] (.rule name :: rest)
  apart : policy = .reject → ∀ pair : BranchPair, ¬ pair.Overlaps productions

namespace Resolve

variable {K V C : Type} [TokenKind K] {policy : OverlapPolicy} {productions : List (Production K)}

/-! ### The checks -/

theorem undefinedRules_eq_nil_iff_at? :
    undefinedRules productions = [] ↔ ∀ production ∈ productions, ∀ place name,
      (Clause.sequence production.clauses).at? place = some (.rule name) →
        ∃ other ∈ productions, other.rule = name := by
  rw [undefinedRules_eq_nil_iff]
  refine forall₂_congr fun production _ => ?_
  have mentioned (name : String) : name ∈ Clause.ruleNamesAll production.clauses ↔
      ∃ place, (Clause.sequence production.clauses).at? place = some (.rule name) :=
    Clause.mem_ruleNames_iff (.sequence production.clauses)
  simp only [mentioned, Production.mem_names, forall_exists_index]
  exact forall_comm

/-- No alternative is reported just if no rule has the same alternative twice. -/
theorem duplicates_eq_nil_iff :
    duplicates productions = [] ↔ ∀ name, (Production.alternatives productions name).Nodup := by
  have one (name : String) : duplicatesOf productions name = [] ↔
      (Production.alternatives productions name).Nodup := by
    rw [duplicatesOf, List.filterMap_eq_nil_iff, List.Nodup, List.pairwise_iff_getElem]
    simp only [Option.map_eq_none_iff, List.findIdx?_eq_none_iff, decide_eq_false_iff_not]
    -- Each alternative is looked for among those in front of it.
    constructor
    · intro fresh first second short long before same
      refine fresh (_, second) (List.mem_zipIdx_iff_getElem?.mpr
        (List.getElem?_eq_getElem long)) _ ?_ same
      exact List.mem_take_iff_getElem.mpr ⟨first, by omega, rfl⟩
    · rintro apart ⟨later, second⟩ listed earlier before same
      obtain ⟨long, there⟩ := List.getElem?_eq_some_iff.mp (List.mem_zipIdx_iff_getElem?.mp listed)
      obtain ⟨first, short, rfl⟩ := List.mem_take_iff_getElem.mp before
      exact apart first second (by omega) long (by omega) (same.trans there.symm)
  rw [duplicates, List.flatMap_eq_nil_iff]
  simp only [one]
  constructor
  · intro named name
    by_cases listed : name ∈ Production.names productions
    · exact named name listed
    · -- A name without productions has no alternatives at all.
      have none : Production.alternatives productions name = [] := by
        refine List.eq_nil_iff_forall_not_mem.mpr fun clauses member => listed ?_
        exact Production.mem_names_of_mem_alternatives member
      rw [none]
      exact List.nodup_nil
  · intro all name _
    exact all name

theorem leftRecursive_eq_nil_iff :
    leftRecursive (Analysis.ofProductions productions) = [] ↔ ∀ name rest,
      ¬ TransGen (Form.Rewrites (Production.alternatives productions)) [.rule name]
        (.rule name :: rest) := by
  rw [leftRecursive, List.map_eq_nil_iff, Analysis.leftRecursion_eq_nil_iff]
  simp only [leftRecursive_iff_rewrites, not_exists]

/-! ### What is fatal -/

/-- An overlap is fatal just under `reject`. -/
theorem isFatal_of_told {pair : BranchPair} {issue : GrammarIssue K}
    (told : pair.Told productions issue) :
    (GrammarIssue.diagnostic policy issue).isFatal = decide (policy = .reject) := by
  obtain ⟨fork, shared, stands, -, -, rfl⟩ := told
  cases stands <;> cases policy <;> rfl

theorem told_harmless_iff {pairs : List BranchPair} {issues : List (GrammarIssue K)}
    (told : List.Forall₂ (BranchPair.Told productions) pairs issues) :
    (∀ issue ∈ issues, (GrammarIssue.diagnostic policy issue).isFatal = false) ↔
      (policy = .reject → pairs = []) := by
  induction told with
  | nil => simp
  | cons here _ ih =>
    rw [List.forall_mem_cons, isFatal_of_told here, ih]
    by_cases rejected : policy = .reject <;> simp [rejected]

/-- Nothing is fatal just if the checks find nothing, where overlaps count only under `reject`. -/
theorem issues_harmless_iff :
    (∀ issue ∈ issues policy productions,
        (GrammarIssue.diagnostic policy issue).isFatal = false) ↔
      undefinedRules productions = [] ∧ duplicates productions = [] ∧
        leftRecursive (Analysis.ofProductions productions) = [] ∧
          (policy = .reject → ∀ pair : BranchPair, ¬ pair.Overlaps productions) := by
  simp only [issues, List.forall_mem_append, and_assoc,
    harmless_iff_nil fun _ => isFatal_of_mem_undefinedRules,
    harmless_iff_nil fun _ => isFatal_of_mem_duplicates,
    harmless_iff_nil fun _ => isFatal_of_mem_leftRecursive]
  refine and_congr_right fun _ => and_congr_right fun _ => and_congr_right fun acyclic => ?_
  -- Without left recursion the issues are those of the pairs that overlap.
  obtain ⟨pairs, -, listed, told⟩ := exists_overlap_pairs
    ((Analysis.leftRecursion_eq_nil_iff productions).mp (List.map_eq_nil_iff.mp acyclic))
  split
  next allowed => simp [allowed]
  next =>
    rw [told_harmless_iff told]
    simp only [← listed, List.eq_nil_iff_forall_not_mem]

/-- Productions are resolved into a grammar just if nothing was wrong before and they can be. -/
theorem isSome_resolve_iff {pending : List (GrammarIssue K)}
    (fatal : ∀ issue ∈ pending, (GrammarIssue.diagnostic policy issue).isFatal = true)
    (declared : List (SemanticProduction K V C)) :
    (Grammar.resolve policy pending declared).value.isSome = true ↔
      pending = [] ∧ Resolvable policy (bare declared) := by
  have fits (inhabited : bare declared ≠ []) :
      Resolvable policy (bare declared) ↔ ∀ issue ∈ issues policy (bare declared),
        (GrammarIssue.diagnostic policy issue).isFatal = false := by
    rw [issues_harmless_iff, undefinedRules_eq_nil_iff_at?, duplicates_eq_nil_iff,
      leftRecursive_eq_nil_iff]
    constructor
    · rintro ⟨-, defined, distinct, acyclic, apart⟩
      exact ⟨defined, distinct, acyclic, apart⟩
    · rintro ⟨defined, distinct, acyclic, apart⟩
      exact ⟨inhabited, defined, distinct, acyclic, apart⟩
  cases declared with
  | nil =>
    refine iff_of_false (by simp [Grammar.resolve, Build.failed]) ?_
    rintro ⟨-, resolvable⟩
    exact resolvable.inhabited rfl
  | cons first rest =>
    -- All that is pending is fatal, so to say that it is harmless is to say that nothing is.
    rw [fits (by simp), ← harmless_iff_nil fatal, ← List.forall_mem_append, Grammar.resolve,
      Build.isSome_ofValue_iff, List.forall_mem_map]

/-! ### What is returned -/

/-- The alternatives of a rule are the productions of its name, in their order. -/
theorem alternatives_of_mem_rules {declared : List (SemanticProduction K V C)} {rule : Rule K V C}
    (member : rule ∈ (grammar declared).rules) :
    rule.alternatives.map (fun alternative => (alternative.clauses, alternative.action)) =
      (declared.filter (·.rule = rule.name)).map fun production =>
        (production.clauses, production.action) := by
  simp only [grammar, List.mem_map] at member
  obtain ⟨⟨name, first⟩, -, rfl⟩ := member
  exact map_namedAlternatives (fun _ _ _ => rfl) _ name declared _ (length_ofProductions declared)

/-- Productions that can be resolved are reported on only where branches overlap. -/
theorem exists_warnings {declared : List (SemanticProduction K V C)}
    (resolvable : Resolvable .warn (bare declared)) :
    ∃ pairs : List BranchPair, pairs.Nodup ∧
      (∀ pair, pair ∈ pairs ↔ pair.Overlaps (bare declared)) ∧
      List.Forall₂ (fun pair diagnostic => ∃ issue, pair.Told (bare declared) issue ∧
          diagnostic = issue.diagnostic .warn)
        pairs (Grammar.resolve .warn [] declared).diagnostics := by
  have named := undefinedRules_eq_nil_iff_at?.mpr resolvable.defined
  have apart := duplicates_eq_nil_iff.mpr resolvable.distinct
  have acyclic := leftRecursive_eq_nil_iff.mpr resolvable.acyclic
  obtain ⟨pairs, nodup, listed, told⟩ := exists_overlap_pairs
    ((Analysis.leftRecursion_eq_nil_iff (bare declared)).mp (List.map_eq_nil_iff.mp acyclic))
  refine ⟨pairs, nodup, listed, ?_⟩
  cases declared with
  | nil => exact absurd rfl resolvable.inhabited
  | cons first rest =>
    simp only [Grammar.resolve, Build.ofValue, issues, named, apart, acyclic, List.nil_append,
      reduceCtorEq, if_false, List.forall₂_map_right_iff]
    exact told.imp fun _ issue about => ⟨issue, about, rfl⟩

end Resolve

namespace GrammarBuilder

variable {K V C : Type} [TokenKind K]

/-- Adds what is declared. -/
def declare (kind? : String → Option K) (builder : GrammarBuilder K V C) :
    Declaration K V C → GrammarBuilder K V C
  | .given production => builder.add production
  | .text written action => builder.addText kind? written action

/-- The builder to which all that is declared was added. -/
def ofDeclarations (policy : OverlapPolicy) (kind? : String → Option K)
    (declarations : List (Declaration K V C)) : GrammarBuilder K V C :=
  declarations.foldl (declare kind?) (.empty policy)

/-! ### What a builder holds -/

theorem declare_eq (kind? : String → Option K) (builder : GrammarBuilder K V C)
    (declaration : Declaration K V C) :
    builder.declare kind? declaration =
      { builder with
        productions := builder.productions ++ (declaration.production? kind?).toList
        pending := builder.pending ++ (declaration.issue? kind?).toList } := by
  cases declaration with
  | given production => simp [declare, add, Declaration.production?, Declaration.issue?]
  | text written action =>
    simp only [declare, addText, Declaration.production?, Declaration.issue?]
    cases ProductionText.read kind? written <;> simp [add, Except.toOption]

/-- A builder holds the productions that were declared and the issues of the other texts. -/
theorem foldl_declare (kind? : String → Option K) (declarations : List (Declaration K V C))
    (builder : GrammarBuilder K V C) :
    declarations.foldl (declare kind?) builder =
      { builder with
        productions := builder.productions ++ declarations.filterMap (·.production? kind?)
        pending := builder.pending ++ declarations.filterMap (·.issue? kind?) } := by
  induction declarations generalizing builder with
  | nil => simp
  | cons declaration rest ih =>
    rw [List.foldl_cons, ih, declare_eq]
    cases made : declaration.production? kind? <;> cases wrong : declaration.issue? kind? <;>
      simp [made, wrong]

theorem resolve_ofDeclarations (policy : OverlapPolicy) (kind? : String → Option K)
    (declarations : List (Declaration K V C)) :
    (ofDeclarations policy kind? declarations).resolve =
      Grammar.resolve policy (declarations.filterMap (·.issue? kind?))
        (declarations.filterMap (·.production? kind?)) := by
  rw [ofDeclarations, foldl_declare, resolve]
  simp [empty]

/-- There is an issue just where there is no production. -/
theorem issue?_eq_none_iff {kind? : String → Option K} {declaration : Declaration K V C} :
    declaration.issue? kind? = none ↔ (declaration.production? kind?).isSome = true := by
  cases declaration with
  | given production => simp [Declaration.issue?, Declaration.production?]
  | text written action =>
    simp only [Declaration.issue?, Declaration.production?]
    cases ProductionText.read kind? written <;> simp [Except.toOption]

theorem isFatal_of_issue? {kind? : String → Option K} {declaration : Declaration K V C}
    {issue : GrammarIssue K} (found : declaration.issue? kind? = some issue)
    (policy : OverlapPolicy) : (issue.diagnostic policy).isFatal = true := by
  cases declaration with
  | given production => cases found
  | text written action =>
    simp only [Declaration.issue?] at found
    split at found
    · cases found
    · cases found
      rfl

/-- What was added to a builder is resolved into a grammar just if every text is a production and
the productions can be resolved. The grammar has a rule for each name in the order in which the
names were first declared, with the productions of the name in the order in which they were added.
It does not depend on what is done about overlaps; under `warn` there is one warning for each pair
of branches that overlap, and nothing else. -/
theorem resolve_exact (policy : OverlapPolicy) (kind? : String → Option K)
    (declarations : List (Declaration K V C)) :
    let build (policy : OverlapPolicy) := (ofDeclarations policy kind? declarations).resolve
    let declared := declarations.filterMap (·.production? kind?)
    let productions := declared.map (·.toProduction)
    ((build policy).value.isSome = true ↔
      (∀ declaration ∈ declarations, (declaration.production? kind?).isSome = true) ∧
        Resolvable policy productions) ∧
    ∀ grammar, (build policy).value = some grammar →
      grammar.ruleNames = (declared.map (·.rule)).eraseDups ∧
      (∀ rule ∈ grammar.rules,
        rule.alternatives.map (fun alternative => (alternative.clauses, alternative.action)) =
          (declared.filter (·.rule = rule.name)).map fun production =>
            (production.clauses, production.action)) ∧
      (∀ other same, (build other).value = some same → same = grammar) ∧
      (policy = .warn → ∃ pairs : List BranchPair, pairs.Nodup ∧
        (∀ pair, pair ∈ pairs ↔ pair.Overlaps productions) ∧
        List.Forall₂ (fun pair diagnostic => ∃ issue, pair.Told productions issue ∧
            diagnostic = issue.diagnostic .warn) pairs (build policy).diagnostics) := by
  intro build declared productions
  -- What is wrong with texts is known before and does not depend on the policy.
  let pending := declarations.filterMap (·.issue? kind?)
  have resolved (policy : OverlapPolicy) :
      build policy = Grammar.resolve policy pending declared :=
    resolve_ofDeclarations policy kind? declarations
  have fatal : ∀ issue ∈ pending, (GrammarIssue.diagnostic policy issue).isFatal = true := by
    intro issue member
    obtain ⟨declaration, -, found⟩ := List.mem_filterMap.mp member
    exact isFatal_of_issue? found policy
  have complete : pending = [] ↔
      ∀ declaration ∈ declarations, (declaration.production? kind?).isSome = true := by
    simp only [pending, List.filterMap_eq_nil_iff, issue?_eq_none_iff]
  have succeeds := Resolve.isSome_resolve_iff fatal declared
  refine ⟨by rw [resolved, succeeds, complete], fun grammar came => ?_⟩
  rw [resolved] at came
  obtain ⟨rfl, -, -⟩ := Grammar.resolve_eq_some came
  refine ⟨?_, fun rule member => Resolve.alternatives_of_mem_rules member, ?_, ?_⟩
  · rw [Resolve.ruleNames_grammar, Production.names, List.map_map]
    rfl
  · intro other same also
    rw [resolved] at also
    exact (Grammar.resolve_eq_some also).1
  · rintro rfl
    obtain ⟨nothing, resolvable⟩ := succeeds.mp (by rw [came]; rfl)
    rw [resolved, nothing]
    exact Resolve.exists_warnings resolvable

/-- Two alternatives and two members of a choice overlap, so there are two warnings; under `reject`
there is no grammar. -/
theorem resolve_exact_overlap :
    let kind? (name : String) : Option Sample.Mark :=
      if name = "Word" then some .word else if name = "Comma" then some .comma else none
    let declarations : List (Declaration Sample.Mark Unit Unit) :=
      [.text "row : Word Comma".toList fun _ _ => ((), ()),
        .given ⟨⟨"end", [.choice [.terminal .comma, .optional (.terminal .comma)]]⟩,
          fun _ _ => ((), ())⟩,
        .text "row : Word end".toList fun _ _ => ((), ())]
    let declared := declarations.filterMap (·.production? kind?)
    let build (policy : OverlapPolicy) := (ofDeclarations policy kind? declarations).resolve
    ¬ Resolvable .reject (declared.map (·.toProduction)) ∧
      ∃ grammar, (build .warn).value = some grammar ∧ grammar.ruleNames = ["row", "end"] ∧
        ∃ pairs : List BranchPair, pairs.Nodup ∧ pairs.length = 2 ∧
          ∀ pair, pair ∈ pairs ↔ pair.Overlaps (declared.map (·.toProduction)) := by
  intro kind? declarations declared build
  have written : ∀ declaration ∈ declarations,
      (declaration.production? kind?).isSome = true := by decide
  constructor
  · intro resolvable
    have some := (resolve_exact .reject kind? declarations).1.mpr ⟨written, resolvable⟩
    exact absurd some (by decide)
  · obtain ⟨grammar, came⟩ := Option.isSome_iff_exists.mp
      (show (build .warn).value.isSome = true by decide)
    obtain ⟨names, -, -, warned⟩ := (resolve_exact .warn kind? declarations).2 grammar came
    obtain ⟨pairs, nodup, overlaps, told⟩ := warned rfl
    refine ⟨grammar, came, names.trans (by decide), pairs, nodup, ?_, overlaps⟩
    exact told.length_eq.trans (by decide)

end GrammarBuilder

end Lookahead
