import Lookahead.Grammar.Resolve
import Lookahead.Proofs.Grammar.FirstSets

/-!
# What the parser may rely on

A grammar that was resolved is coherent: the sets and signs kept with its rules and alternatives
are those of their clauses, every name that it mentions is a rule, and its rules can be ranked so
that whatever a match of a rule can begin with has a lower rank. Proofs about the parser use these
facts and do not look into the analysis again.

Main statement: `Grammar.Resolved.coherent`. The grammar of bracketed lists at the end serves for
instances of theorems.
-/

namespace Lookahead

namespace Clause

variable {K : Type} [TokenKind K] {first : String → KindSet K} {empty : String → Bool}

/-! ### Lookahead of clauses -/

/-- The test for one kind agrees with the set of all kinds. -/
theorem starts_iff (clause : Clause K) {kind : K} :
    clause.starts first empty kind = true ↔ kind ∈ clause.firstKinds first empty := by
  induction clause with
  | terminal expected => simp [starts, firstKinds, eq_comm]
  | rule name => simp [starts, firstKinds]
  | sequence items ih =>
    rw [starts, firstKinds]
    induction items with
    | nil => simp [startsSequence, firstKindsSequence]
    | cons clause rest rest_ih =>
      have here := ih clause List.mem_cons_self
      have later := rest_ih fun item member => ih item (List.mem_cons_of_mem _ member)
      cases nothing : clause.nullable empty <;>
        simp [startsSequence, firstKindsSequence, nothing, here, later]
  | choice members ih =>
    rw [starts, firstKinds]
    induction members with
    | nil => simp [startsAny, firstKindsAny]
    | cons clause rest rest_ih =>
      have here := ih clause List.mem_cons_self
      have later := rest_ih fun member among => ih member (List.mem_cons_of_mem _ among)
      simp [startsAny, firstKindsAny, here, later]
  | zeroOrMore body ih => exact ih
  | oneOrMore body ih => exact ih
  | optional body ih => exact ih
  | group body label ih => exact ih

/-- With the first sets of the rules the first set of any clause is exact. -/
theorem mem_firstKinds_iff {alternatives : String → List (List (Clause K))} {kind : K}
    (exact : ∀ name, kind ∈ first name ↔ Begins alternatives empty (.rule name) kind)
    (clause : Clause K) :
    kind ∈ clause.firstKinds first empty ↔ Begins alternatives empty clause kind := by
  induction clause with
  | terminal expected => simp [firstKinds]
  | rule name => exact exact name
  | sequence items ih =>
    rw [firstKinds]
    induction items with
    | nil => simp [firstKindsSequence]
    | cons clause rest rest_ih =>
      have here := ih clause List.mem_cons_self
      have later := rest_ih fun item member => ih item (List.mem_cons_of_mem _ member)
      cases nothing : clause.nullable empty <;>
        simp [firstKindsSequence, nothing, Begins.cons_iff, here, later]
  | choice members ih =>
    rw [firstKinds, Begins.choice_iff]
    induction members with
    | nil => simp [firstKindsAny]
    | cons clause rest rest_ih =>
      have here := ih clause List.mem_cons_self
      have later := rest_ih fun member among => ih member (List.mem_cons_of_mem _ among)
      simp [firstKindsAny, here, later]
  | zeroOrMore body ih => exact ih.trans Begins.zeroOrMore_iff.symm
  | oneOrMore body ih => exact ih.trans Begins.oneOrMore_iff.symm
  | optional body ih => exact ih.trans Begins.optional_iff.symm
  | group body label ih => exact ih.trans Begins.group_iff.symm

end Clause

namespace Grammar

variable {K V C : Type} [TokenKind K]

/-- The right-hand sides of the rule `name`; none for an unknown rule. -/
def alternatives (grammar : Grammar K V C) (name : String) : List (List (Clause K)) :=
  match grammar.rule? name with
  | some rule => rule.alternatives.map (·.clauses)
  | none => []

/-- A grammar that some productions were resolved into without a fatal diagnostic. -/
def Resolved (grammar : Grammar K V C) : Prop :=
  ∃ policy pending productions, (Grammar.resolve policy pending productions).value = some grammar

/-- A number for every rule name, such that what a match of a rule can begin with before a token is
read has a smaller number than the rule. -/
structure Ranked (grammar : Grammar K V C) (rank : String → Nat) : Prop where
  bounded (name : String) : rank name ≤ grammar.rules.length
  positive {name : String} : name ∈ grammar.ruleNames → 0 < rank name
  descends {name inner : String} {clauses : List (Clause K)} :
    clauses ∈ grammar.alternatives name →
      inner ∈ Clause.leadingOfSequence grammar.ruleMayBeEmpty clauses → rank inner < rank name

/-- What is kept with the rules is what their clauses say. -/
structure Coherent (grammar : Grammar K V C) : Prop where
  mem_alternative {name : String} {rule : Rule K V C} {alternative : Alternative K V C} {kind : K} :
    grammar.rule? name = some rule → alternative ∈ rule.alternatives →
      (kind ∈ alternative.first ↔ kind ∈ grammar.firstOf (.sequence alternative.clauses))
  alternative_empty {name : String} {rule : Rule K V C} {alternative : Alternative K V C} :
    grammar.rule? name = some rule → alternative ∈ rule.alternatives →
      alternative.mayBeEmpty = grammar.nullable (.sequence alternative.clauses)
  mem_rule {name : String} {rule : Rule K V C} {kind : K} :
    grammar.rule? name = some rule →
      (kind ∈ rule.first ↔ ∃ alternative ∈ rule.alternatives, kind ∈ alternative.first)
  rule_empty {name : String} {rule : Rule K V C} :
    grammar.rule? name = some rule →
      (rule.mayBeEmpty = true ↔ ∃ alternative ∈ rule.alternatives, alternative.mayBeEmpty = true)
  defined {name inner : String} {clauses : List (Clause K)} :
    clauses ∈ grammar.alternatives name → inner ∈ Clause.ruleNamesAll clauses →
      inner ∈ grammar.ruleNames
  mem_firstOf {clause : Clause K} {kind : K} :
    kind ∈ grammar.firstOf clause ↔
      Clause.Begins grammar.alternatives grammar.ruleMayBeEmpty clause kind
  ranked : ∃ rank, grammar.Ranked rank

theorem rule?_eq_some {grammar : Grammar K V C} {name : String} {rule : Rule K V C}
    (found : grammar.rule? name = some rule) : rule ∈ grammar.rules ∧ rule.name = name :=
  ⟨List.mem_of_find?_eq_some found, by simpa using List.find?_some found⟩

theorem alternatives_of_some {grammar : Grammar K V C} {name : String} {rule : Rule K V C}
    (found : grammar.rule? name = some rule) :
    grammar.alternatives name = rule.alternatives.map (·.clauses) := by
  rw [alternatives, found]

theorem mem_ruleNames {grammar : Grammar K V C} {name : String} :
    name ∈ grammar.ruleNames ↔ ∃ rule, grammar.rule? name = some rule := by
  constructor
  · intro member
    obtain ⟨rule, listed, rfl⟩ := List.mem_map.mp member
    exact Option.isSome_iff_exists.mp (List.find?_isSome.mpr ⟨rule, listed, by simp⟩)
  · rintro ⟨rule, found⟩
    obtain ⟨listed, rfl⟩ := rule?_eq_some found
    exact List.mem_map.mpr ⟨rule, listed, rfl⟩

/-- A rule of the grammar is the rule of its name. -/
theorem rule?_of_mem {grammar : Grammar K V C} (distinct : grammar.ruleNames.Nodup)
    {rule : Rule K V C} (member : rule ∈ grammar.rules) :
    grammar.rule? rule.name = some rule := by
  obtain ⟨other, found⟩ := mem_ruleNames.mp (List.mem_map_of_mem member)
  obtain ⟨listed, same⟩ := rule?_eq_some found
  rw [found, List.inj_on_of_nodup_map distinct listed member same]

theorem exists_rule_of_mem_alternatives {grammar : Grammar K V C} {name : String}
    {clauses : List (Clause K)} (member : clauses ∈ grammar.alternatives name) :
    ∃ rule, grammar.rule? name = some rule ∧
      ∃ alternative ∈ rule.alternatives, alternative.clauses = clauses := by
  unfold alternatives at member
  cases found : grammar.rule? name with
  | none =>
    rw [found] at member
    cases member
  | some rule =>
    rw [found] at member
    obtain ⟨alternative, listed, rfl⟩ := List.mem_map.mp member
    exact ⟨rule, rfl, alternative, listed, rfl⟩

/-- A rule can be empty if one of its alternatives can. -/
theorem Coherent.ruleMayBeEmpty {grammar : Grammar K V C} (coherent : grammar.Coherent)
    (name : String) (clauses : List (Clause K)) (member : clauses ∈ grammar.alternatives name)
    (nothing : Clause.nullableAll grammar.ruleMayBeEmpty clauses = true) :
    grammar.ruleMayBeEmpty name = true := by
  obtain ⟨rule, found, alternative, listed, rfl⟩ := exists_rule_of_mem_alternatives member
  rw [Grammar.ruleMayBeEmpty, found]
  refine (coherent.rule_empty found).mpr ⟨alternative, listed, ?_⟩
  rw [coherent.alternative_empty found listed]
  exact nothing

end Grammar

/-! ### What productions are resolved into -/

namespace Resolve

variable {K V C : Type} [TokenKind K]

/-- The first sets of productions that are not left recursive are exact. -/
theorem firstSets_exact {productions : List (Production K)} {rank : String → Nat}
    (ranking : Analysis.Ranking productions rank) :
    let sets := firstSets (Analysis.ofProductions productions)
    List.Forall₂ (fun production set => ∀ kind, kind ∈ set ↔
        Analysis.Begins productions (.sequence production.clauses) kind)
      productions sets.ofProductions ∧
    List.Forall₂ (fun name set => ∀ kind, kind ∈ set ↔
        Analysis.Begins productions (.rule name) kind)
      (Production.names productions) sets.ofRules ∧
    FirstMemo.Exact (Analysis.Begins productions) sets.memo ∧
    FirstMemo.Above rank (Production.names productions).length sets.memo := by
  obtain ⟨alternatives, exact, above⟩ := Analysis.firstOfEach_finds productions
    (fun production => Analysis.sequenceFirst_finds ranking production.clauses)
    FirstMemo.exact_nil FirstMemo.above_nil
  exact ⟨alternatives, Analysis.firstOfEach_finds (Production.names productions)
    (Analysis.ruleFirst_finds ranking) exact above⟩

/-- The productions without their actions. -/
abbrev bare (productions : List (SemanticProduction K V C)) : List (Production K) :=
  productions.map (·.toProduction)

/-- The alternatives that productions become, each with the name of its rule. -/
def namedAlternatives (analysis : Analysis K) (productions : List (SemanticProduction K V C))
    (sets : List (KindSet K)) : List (String × Alternative K V C) :=
  (productions.zip sets).map fun (production, first) =>
    (production.rule, ⟨production.clauses, first,
      analysis.sequenceNullable production.clauses, production.action⟩)

/-- The alternatives of a rule keep the order of its productions and what is taken from them. -/
theorem map_namedAlternatives {α : Type} {take : Alternative K V C → α}
    {taken : SemanticProduction K V C → α}
    (same : ∀ production first mayBeEmpty,
      take ⟨production.clauses, first, mayBeEmpty, production.action⟩ = taken production)
    (analysis : Analysis K) (name : String) (productions : List (SemanticProduction K V C))
    (sets : List (KindSet K)) (long : productions.length = sets.length) :
    (((namedAlternatives analysis productions sets).filter (·.1 = name)).map (·.2)).map take =
      (productions.filter (·.rule = name)).map taken := by
  induction productions generalizing sets with
  | nil => cases sets <;> rfl
  | cons production rest ih =>
    cases sets with
    | nil => cases long
    | cons set sets =>
      have others := ih sets (by simpa using long)
      simp only [namedAlternatives] at others ⊢
      by_cases own : production.rule = name <;> simpa [own, same] using others

omit [TokenKind K] in
theorem alternatives_bare (productions : List (SemanticProduction K V C)) (name : String) :
    Production.alternatives (bare productions) name =
      (productions.filter (·.rule = name)).map (·.clauses) := by
  simp [Production.alternatives, bare, List.filter_map, Function.comp_def]

variable {productions : List (SemanticProduction K V C)} {rank : String → Nat}

theorem length_ofProductions (productions : List (SemanticProduction K V C)) :
    productions.length =
      (firstSets (Analysis.ofProductions (bare productions))).ofProductions.length := by
  simp [firstSets, Analysis.ofProductions, Analysis.length_firstOfEach]

/-- There is a rule for each name, in the order of the first productions. -/
theorem ruleNames_grammar (productions : List (SemanticProduction K V C)) :
    (grammar productions).ruleNames = Production.names (bare productions) := by
  simp only [Grammar.ruleNames, grammar, List.map_map]
  refine List.map_fst_zip (le_of_eq ?_)
  simp [firstSets, Analysis.ofProductions, Analysis.length_firstOfEach]

/-- The rules of the grammar of productions. -/
theorem rule?_grammar (ranking : Analysis.Ranking (bare productions) rank) {name : String}
    {rule : Rule K V C} (found : (grammar productions).rule? name = some rule) :
    name ∈ Production.names (bare productions) ∧
    rule.alternatives = ((namedAlternatives (Analysis.ofProductions (bare productions)) productions
      (firstSets (Analysis.ofProductions (bare productions))).ofProductions).filter
        (·.1 = name)).map (·.2) ∧
    (∀ kind, kind ∈ rule.first ↔ Analysis.Begins (bare productions) (.rule name) kind) ∧
    rule.mayBeEmpty = (Analysis.ofProductions (bare productions)).ruleNullable name := by
  obtain ⟨listed, rfl⟩ := Grammar.rule?_eq_some found
  simp only [grammar, List.mem_map] at listed
  obtain ⟨⟨name, first⟩, paired, rfl⟩ := listed
  have exact := (List.forall₂_iff_zip.mp (firstSets_exact ranking).2.1).2 paired
  exact ⟨(List.of_mem_zip paired).1, rfl, exact, rfl⟩

theorem alternatives_grammar (ranking : Analysis.Ranking (bare productions) rank)
    (name : String) :
    (grammar productions).alternatives name = Production.alternatives (bare productions) name := by
  unfold Grammar.alternatives
  cases found : (grammar productions).rule? name with
  | some rule =>
    obtain ⟨-, alternatives, -⟩ := rule?_grammar ranking found
    simp only [alternatives]
    rw [alternatives_bare]
    exact map_namedAlternatives (fun _ _ _ => rfl) _ name productions _
      (length_ofProductions productions)
  | none =>
    symm
    refine List.eq_nil_iff_forall_not_mem.mpr fun clauses member => ?_
    have defined := Production.mem_names_of_mem_alternatives member
    rw [← ruleNames_grammar] at defined
    obtain ⟨rule, known⟩ := Grammar.mem_ruleNames.mp defined
    rw [found] at known
    cases known

theorem ruleMayBeEmpty_grammar (ranking : Analysis.Ranking (bare productions) rank) :
    (grammar productions).ruleMayBeEmpty =
      (Analysis.ofProductions (bare productions)).ruleNullable := by
  funext name
  unfold Grammar.ruleMayBeEmpty
  cases found : (grammar productions).rule? name with
  | some rule => exact (rule?_grammar ranking found).2.2.2
  | none =>
    symm
    refine Bool.eq_false_iff.mpr fun nothing => ?_
    have defined := Analysis.mem_names_of_ruleNullable nothing
    rw [← ruleNames_grammar] at defined
    obtain ⟨rule, known⟩ := Grammar.mem_ruleNames.mp defined
    rw [found] at known
    cases known

theorem mem_ruleFirst_grammar (ranking : Analysis.Ranking (bare productions) rank)
    (name : String) (kind : K) :
    kind ∈ (grammar productions).ruleFirst name ↔
      Analysis.Begins (bare productions) (.rule name) kind := by
  unfold Grammar.ruleFirst
  cases found : (grammar productions).rule? name with
  | some rule => exact (rule?_grammar ranking found).2.2.1 kind
  | none =>
    refine iff_of_false KindSet.not_mem_empty fun begins => ?_
    obtain ⟨clauses, member, -⟩ := Clause.Begins.rule_iff.mp begins
    have defined := Production.mem_names_of_mem_alternatives member
    rw [← ruleNames_grammar] at defined
    obtain ⟨rule, known⟩ := Grammar.mem_ruleNames.mp defined
    rw [found] at known
    cases known

/-- The first set of any clause of a grammar is exact. -/
theorem mem_firstOf_grammar (ranking : Analysis.Ranking (bare productions) rank)
    (clause : Clause K) (kind : K) :
    kind ∈ (grammar productions).firstOf clause ↔
      Analysis.Begins (bare productions) clause kind := by
  unfold Grammar.firstOf
  rw [ruleMayBeEmpty_grammar ranking]
  exact Clause.mem_firstKinds_iff (fun name => mem_ruleFirst_grammar ranking name kind) clause

/-- What is kept with an alternative is what its clauses say. -/
theorem mem_alternatives_grammar (ranking : Analysis.Ranking (bare productions) rank)
    {name : String} {rule : Rule K V C} (found : (grammar productions).rule? name = some rule)
    {alternative : Alternative K V C} (member : alternative ∈ rule.alternatives) :
    (∀ kind, kind ∈ alternative.first ↔
      Analysis.Begins (bare productions) (.sequence alternative.clauses) kind) ∧
    alternative.mayBeEmpty =
      Clause.nullableAll (Analysis.ofProductions (bare productions)).ruleNullable
        alternative.clauses := by
  rw [(rule?_grammar ranking found).2.1] at member
  simp only [namedAlternatives, List.mem_map, List.mem_filter] at member
  obtain ⟨⟨_, _⟩, ⟨⟨⟨production, first⟩, paired, same⟩, -⟩, rfl⟩ := member
  cases same
  have exact := List.forall₂_iff_zip.mp (List.forall₂_map_left_iff.mp (firstSets_exact ranking).1)
  exact ⟨exact.2 paired, rfl⟩

/-- No name is reported just if every name that is mentioned is the name of a production. -/
theorem undefinedRules_eq_nil_iff {productions : List (Production K)} :
    undefinedRules productions = [] ↔ ∀ production ∈ productions,
      ∀ name ∈ Clause.ruleNamesAll production.clauses, name ∈ Production.names productions := by
  rw [undefinedRules, List.map_eq_nil_iff, List.eq_nil_iff_forall_not_mem]
  simp only [List.mem_eraseDups, List.mem_filter, List.mem_flatMap, List.mem_map,
    ← Production.defines_iff]
  constructor
  · intro none production declared name mentioned
    by_contra undefined
    exact none (production.rule, name) ⟨⟨production, declared, name, mentioned, rfl⟩,
      by simpa using undefined⟩
  · rintro defined ⟨rule, name⟩ ⟨⟨production, declared, _, mentioned, same⟩, undefined⟩
    cases same
    simp [defined production declared name mentioned] at undefined

theorem coherent_grammar (ranking : Analysis.Ranking (bare productions) rank)
    (closed : undefinedRules (bare productions) = []) : (grammar productions).Coherent where
  mem_alternative found member := by
    rw [mem_firstOf_grammar ranking]
    exact (mem_alternatives_grammar ranking found member).1 _
  alternative_empty found member := by
    rw [(mem_alternatives_grammar ranking found member).2, Grammar.nullable,
      ruleMayBeEmpty_grammar ranking, Clause.nullable]
  mem_rule {name rule kind} found := by
    refine ((rule?_grammar ranking found).2.2.1 kind).trans (Clause.Begins.rule_iff.trans ?_)
    rw [← alternatives_grammar ranking, Grammar.alternatives, found]
    simp only [List.mem_map, exists_exists_and_eq_and]
    refine exists_congr fun alternative => and_congr_right fun member => ?_
    exact ((mem_alternatives_grammar ranking found member).1 kind).symm
  rule_empty {name rule} found := by
    rw [(rule?_grammar ranking found).2.2.2, Analysis.ruleNullable_eq,
      ← alternatives_grammar ranking, Grammar.alternatives, found]
    simp only [List.any_map, List.any_eq_true]
    refine exists_congr fun alternative => and_congr_right fun member => ?_
    rw [(mem_alternatives_grammar ranking found member).2, Function.comp]
  defined {name inner clauses} member mentioned := by
    rw [alternatives_grammar ranking] at member
    obtain ⟨production, declared, rfl, rfl⟩ := Production.mem_alternatives.mp member
    rw [ruleNames_grammar]
    exact undefinedRules_eq_nil_iff.mp closed production declared inner mentioned
  mem_firstOf {clause kind} := by
    rw [mem_firstOf_grammar ranking, Analysis.Begins, funext (alternatives_grammar ranking),
      ruleMayBeEmpty_grammar ranking]
  ranked := by
    refine ⟨rank, fun name => ?_, fun defined => ?_, fun {name inner clauses} member leading => ?_⟩
    · have same : (grammar productions).rules.length =
          (Production.names (bare productions)).length := by
        simp [grammar, ← (firstSets_exact ranking).2.1.length_eq]
      rw [same]
      exact ranking.bounded name
    · rw [ruleNames_grammar] at defined
      exact ranking.positive _ defined
    · rw [alternatives_grammar ranking] at member
      rw [ruleMayBeEmpty_grammar ranking] at leading
      exact ranking.descends name clauses member inner leading

/-! ### What is fatal -/

section Fatal

variable {policy : OverlapPolicy} {productions : List (Production K)}

theorem harmless_iff_nil {issues : List (GrammarIssue K)}
    (fatal : ∀ issue ∈ issues, (GrammarIssue.diagnostic policy issue).isFatal = true) :
    (∀ issue ∈ issues, (GrammarIssue.diagnostic policy issue).isFatal = false) ↔ issues = [] := by
  constructor
  · intro harmless
    refine List.eq_nil_iff_forall_not_mem.mpr fun issue member => ?_
    have := harmless issue member
    rw [fatal issue member] at this
    cases this
  · rintro rfl
    simp

theorem isFatal_of_mem_undefinedRules {issue : GrammarIssue K}
    (member : issue ∈ undefinedRules productions) :
    (GrammarIssue.diagnostic policy issue).isFatal = true := by
  obtain ⟨mention, -, rfl⟩ := List.mem_map.mp member
  rfl

theorem isFatal_of_mem_duplicates {issue : GrammarIssue K}
    (member : issue ∈ duplicates productions) :
    (GrammarIssue.diagnostic policy issue).isFatal = true := by
  obtain ⟨name, -, among⟩ := List.mem_flatMap.mp member
  obtain ⟨⟨later, second⟩, -, found⟩ := List.mem_filterMap.mp among
  obtain ⟨first, -, rfl⟩ := Option.map_eq_some_iff.mp found
  rfl

theorem isFatal_of_mem_leftRecursive {issue : GrammarIssue K} {analysis : Analysis K}
    (member : issue ∈ leftRecursive analysis) :
    (GrammarIssue.diagnostic policy issue).isFatal = true := by
  obtain ⟨⟨rule, chain⟩, -, rfl⟩ := List.mem_map.mp member
  rfl

end Fatal

end Resolve

/-- A value is kept just if nothing is fatal. -/
theorem Build.ofValue_eq_some_iff {α : Type} {value built : α} {diagnostics : List Diagnostic} :
    (Build.ofValue value diagnostics).value = some built ↔
      built = value ∧ ∀ diagnostic ∈ diagnostics, diagnostic.isFatal = false := by
  have harmless : (¬ diagnostics.any Diagnostic.isFatal = true) ↔
      ∀ diagnostic ∈ diagnostics, diagnostic.isFatal = false := by simp
  rw [← harmless, ofValue]
  split
  next fatal => simp [fatal]
  next mild => simp [mild, eq_comm]

theorem Build.isSome_ofValue_iff {α : Type} {value : α} {diagnostics : List Diagnostic} :
    (Build.ofValue value diagnostics).value.isSome = true ↔
      ∀ diagnostic ∈ diagnostics, diagnostic.isFatal = false := by
  simp [Option.isSome_iff_exists, ofValue_eq_some_iff]

namespace Grammar

variable {K V C : Type} [TokenKind K]

/-- Resolving gives a grammar only if nothing is fatal, so no name is undefined and no rule is
left recursive. -/
theorem resolve_eq_some {policy : OverlapPolicy} {pending : List (GrammarIssue K)}
    {productions : List (SemanticProduction K V C)} {grammar : Grammar K V C}
    (resolved : (Grammar.resolve policy pending productions).value = some grammar) :
    grammar = Resolve.grammar productions ∧
      Resolve.undefinedRules (Resolve.bare productions) = [] ∧
      (Analysis.ofProductions (Resolve.bare productions)).leftRecursion = [] := by
  cases productions with
  | nil => cases resolved
  | cons first rest =>
    obtain ⟨same, harmless⟩ := Build.ofValue_eq_some_iff.mp resolved
    simp only [List.forall_mem_map, List.forall_mem_append, Resolve.issues] at harmless
    obtain ⟨-, ⟨⟨named, -⟩, acyclic⟩, -⟩ := harmless
    -- Both kinds of issues are fatal whatever the policy is.
    have none := (Resolve.harmless_iff_nil fun _ => Resolve.isFatal_of_mem_leftRecursive).mp acyclic
    exact ⟨same, (Resolve.harmless_iff_nil fun _ => Resolve.isFatal_of_mem_undefinedRules).mp named,
      List.map_eq_nil_iff.mp none⟩

/-- The alternatives of the rules are those of the productions. -/
theorem alternatives_of_resolve {policy : OverlapPolicy} {pending : List (GrammarIssue K)}
    {productions : List (SemanticProduction K V C)} {grammar : Grammar K V C}
    (resolved : (Grammar.resolve policy pending productions).value = some grammar) :
    grammar.alternatives = Production.alternatives (Resolve.bare productions) := by
  obtain ⟨rfl, -, acyclic⟩ := resolve_eq_some resolved
  obtain ⟨rank, ranking⟩ := Analysis.exists_ranking acyclic
  exact funext (Resolve.alternatives_grammar ranking)

theorem ruleNames_of_resolve {policy : OverlapPolicy} {pending : List (GrammarIssue K)}
    {productions : List (SemanticProduction K V C)} {grammar : Grammar K V C}
    (resolved : (Grammar.resolve policy pending productions).value = some grammar) :
    grammar.ruleNames = Production.names (Resolve.bare productions) := by
  obtain ⟨rfl, -⟩ := resolve_eq_some resolved
  exact Resolve.ruleNames_grammar productions

theorem Resolved.coherent {grammar : Grammar K V C} (resolved : grammar.Resolved) :
    grammar.Coherent := by
  obtain ⟨policy, pending, productions, succeeded⟩ := resolved
  obtain ⟨rfl, closed, acyclic⟩ := resolve_eq_some succeeded
  obtain ⟨rank, ranking⟩ := Analysis.exists_ranking acyclic
  exact Resolve.coherent_grammar ranking closed

end Grammar

/-! ### Bracketed lists -/

namespace Sample

/-- The kinds of the tokens in bracketed lists. -/
inductive Mark where
  | word
  | comma
  | opening
  | closing
  deriving DecidableEq, Repr

namespace Mark

/-- The place of a kind in the order of the kinds. -/
def index : Mark → Nat
  | .word => 0
  | .comma => 1
  | .opening => 2
  | .closing => 3

instance : Ord Mark := ⟨fun a b => compare a.index b.index⟩

instance : Std.TransOrd Mark where
  eq_swap := by
    intro a b
    cases a <;> cases b <;> rfl
  isLE_trans := by
    intro a b c
    cases a <;> cases b <;> cases c <;> decide

instance : Std.LawfulEqOrd Mark where
  compare_self := by
    intro a
    cases a <;> rfl
  eq_of_compare := by
    intro a b
    cases a <;> cases b <;> decide

instance : TokenKind Mark where
  label
    | .word => "word"
    | .comma => ","
    | .opening => "["
    | .closing => "]"

end Mark

/-- What stands behind the first item of a list: a comma and another item, any number of times. -/
def others : Clause Mark :=
  .zeroOrMore (.group (.sequence [.terminal .comma, .rule "item"]) none)

/-- Lists of items between commas. An item is a word, a list in brackets or nothing. -/
def productions : List (SemanticProduction Mark Nat Unit) :=
  [⟨⟨"list", [.rule "item", others]⟩, fun children _ => (children.length, ())⟩,
    ⟨⟨"item", [.terminal .word]⟩, fun _ _ => (1, ())⟩,
    ⟨⟨"item", [.terminal .opening, .rule "list", .terminal .closing]⟩, fun _ _ => (1, ())⟩,
    ⟨⟨"item", []⟩, fun _ _ => (0, ())⟩]

/-- The grammar of bracketed lists. -/
def grammar : Grammar Mark Nat Unit := Resolve.grammar productions

theorem resolved : grammar.Resolved := ⟨.reject, [], productions, rfl⟩

/-- Tokens of the kinds, all at one place and without a text. -/
def tokens (kinds : List Mark) : List (Token Mark) := kinds.map (⟨·, [], .start⟩)

end Sample

end Lookahead
