import Lookahead.Proofs.Grammar.Resolution
import Lookahead.Proofs.Grammar.Simulation

/-!
# Reports of overlaps under left recursion

Productions that are left recursive are resolved into no grammar, but they are still checked for
branches that overlap. First sets are found under way then, and some of them stay incomplete. What
is reported is right, and it is about no pair of branches twice. But an overlap of branches that
lead to a left recursive rule may be told in part or not at all, and which ones are told depends on
the order of the declarations.

Main statement: `GrammarBuilder.overlaps_reported`.
-/

namespace Lookahead

namespace Resolve

variable {K V C : Type} [TokenKind K] {policy : OverlapPolicy} {productions : List (Production K)}

/-! ### Codes of issues -/

theorem code_of_mem_undefinedRules {issue : GrammarIssue K}
    (member : issue ∈ undefinedRules productions) :
    (issue.diagnostic policy).code = .undefinedRule := by
  obtain ⟨mention, -, rfl⟩ := List.mem_map.mp member
  rfl

theorem code_of_mem_duplicates {issue : GrammarIssue K} (member : issue ∈ duplicates productions) :
    (issue.diagnostic policy).code = .duplicateAlternative := by
  obtain ⟨name, -, own⟩ := List.mem_flatMap.mp member
  obtain ⟨⟨later, second⟩, -, found⟩ := List.mem_filterMap.mp own
  obtain ⟨first, -, rfl⟩ := Option.map_eq_some_iff.mp found
  rfl

theorem code_of_mem_leftRecursive {analysis : Analysis K} {issue : GrammarIssue K}
    (member : issue ∈ leftRecursive analysis) :
    (issue.diagnostic policy).code = .leftRecursion := by
  obtain ⟨chain, -, rfl⟩ := List.mem_map.mp member
  rfl

/-- The issue is reported as an overlap. -/
abbrev TellsOverlap (policy : OverlapPolicy) (issue : GrammarIssue K) : Prop :=
  (issue.diagnostic policy).code = .ambiguousAlternatives

theorem tellsOverlap_of_reported {pair : BranchPair} {issue : GrammarIssue K}
    (reported : pair.Reported productions issue) : TellsOverlap policy issue := by
  obtain ⟨fork, shared, stands, -, -, -, -, rfl⟩ := reported
  cases stands <;> rfl

/-- The checks that come before those for overlaps report no overlaps. -/
theorem not_tellsOverlap_of_mem {issue : GrammarIssue K}
    (member : issue ∈ undefinedRules productions ++ duplicates productions ++
      leftRecursive (Analysis.ofProductions productions)) : ¬ TellsOverlap policy issue := by
  rcases List.mem_append.mp member with member | recursive
  · rcases List.mem_append.mp member with undefined | duplicate
    · simp [TellsOverlap, code_of_mem_undefinedRules undefined]
    · simp [TellsOverlap, code_of_mem_duplicates duplicate]
  · simp [TellsOverlap, code_of_mem_leftRecursive recursive]

/-! ### Reports of overlaps -/

/-- Of all that is wrong with productions the overlaps are what the last check finds. -/
theorem filter_issues (heeded : policy ≠ .allow) (productions : List (Production K)) :
    let analysis := Analysis.ofProductions productions
    let sets := firstSets analysis
    (issues policy productions).filter (TellsOverlap policy ·) =
      alternativeOverlaps productions sets.ofProductions ++
        choiceOverlaps analysis (allChoices productions) sets.memo := by
  intro analysis sets
  obtain ⟨pairs, -, -, -, reported⟩ := exists_reported_pairs productions
  have others : (undefinedRules productions ++ duplicates productions ++
      leftRecursive analysis).filter (TellsOverlap policy ·) = [] := by
    refine List.filter_eq_nil_iff.mpr fun issue member => ?_
    simpa using not_tellsOverlap_of_mem member
  rw [issues, if_neg heeded, List.filter_append, others, List.nil_append]
  refine List.filter_eq_self.mpr fun issue member => ?_
  obtain ⟨pair, -, about⟩ := exists_mem_of_forall₂ reported.flip member
  exact decide_eq_true (tellsOverlap_of_reported about)

/-- All overlaps among the diagnostics come from the last check of the productions. -/
theorem filter_diagnostics (heeded : policy ≠ .allow) {pending : List (GrammarIssue K)}
    (others : ∀ issue ∈ pending, ¬ TellsOverlap policy issue)
    (declared : List (SemanticProduction K V C)) :
    let productions := bare declared
    let analysis := Analysis.ofProductions productions
    let sets := firstSets analysis
    (Grammar.resolve policy pending declared).diagnostics.filter
        (·.code = .ambiguousAlternatives) =
      (alternativeOverlaps productions sets.ofProductions ++
        choiceOverlaps analysis (allChoices productions) sets.memo).map
          (GrammarIssue.diagnostic policy) := by
  intro productions analysis sets
  have none : pending.filter (TellsOverlap policy ·) = [] :=
    List.filter_eq_nil_iff.mpr fun issue member => by simpa using others issue member
  have split (more : List (GrammarIssue K)) :
      ((pending ++ more).map (GrammarIssue.diagnostic policy)).filter
          (·.code = .ambiguousAlternatives) =
        (more.filter (TellsOverlap policy ·)).map (GrammarIssue.diagnostic policy) := by
    rw [List.filter_map, List.filter_append]
    exact congrArg _ (congrArg (· ++ _) none)
  cases declared with
  | nil =>
    -- Without a production there is nothing that could overlap.
    exact split [.noProductions]
  | cons first rest =>
    rw [← filter_issues heeded]
    exact split _

end Resolve

namespace GrammarBuilder

variable {K V C : Type} [TokenKind K]

theorem code_of_issue? {policy : OverlapPolicy} {kind? : String → Option K}
    {declaration : Declaration K V C} {issue : GrammarIssue K}
    (found : declaration.issue? kind? = some issue) :
    (issue.diagnostic policy).code = .invalidRuleText := by
  cases declaration with
  | given production => cases found
  | text written action =>
    simp only [Declaration.issue?] at found
    split at found
    · cases found
    · cases found
      rfl

theorem not_tellsOverlap_of_issue? {policy : OverlapPolicy} {kind? : String → Option K}
    {declaration : Declaration K V C} {issue : GrammarIssue K}
    (found : declaration.issue? kind? = some issue) : ¬ Resolve.TellsOverlap policy issue := by
  simp [Resolve.TellsOverlap, code_of_issue? found]

/-- Wherever overlaps are heeded, whatever else is wrong with what was declared, every report of an
overlap is about branches that overlap, and it tells kinds that both can begin with. No pair of
branches is reported twice. None is missed, and no shared kind is, where neither branch can come to
begin with a left recursive rule. -/
theorem overlaps_reported (policy : OverlapPolicy) (heeded : policy ≠ .allow)
    (kind? : String → Option K) (declarations : List (Declaration K V C)) :
    let declared := declarations.filterMap (·.production? kind?)
    let productions := declared.map (·.toProduction)
    let diagnostics := (ofDeclarations policy kind? declarations).resolve.diagnostics
    ∃ pairs : List BranchPair, pairs.Nodup ∧
      (∀ pair ∈ pairs, pair.Overlaps productions) ∧
      (∀ pair : BranchPair, pair.Clear productions → pair.Overlaps productions → pair ∈ pairs) ∧
      List.Forall₂ (fun pair diagnostic => ∃ issue, pair.Reported productions issue ∧
          diagnostic = issue.diagnostic policy)
        pairs (diagnostics.filter (·.code = .ambiguousAlternatives)) := by
  intro declared productions diagnostics
  have others : ∀ issue ∈ declarations.filterMap (·.issue? kind?),
      ¬ Resolve.TellsOverlap policy issue := by
    intro issue member
    obtain ⟨declaration, -, found⟩ := List.mem_filterMap.mp member
    exact not_tellsOverlap_of_issue? found
  obtain ⟨pairs, nodup, only, all, reported⟩ := Resolve.exists_reported_pairs productions
  refine ⟨pairs, nodup, only, all, ?_⟩
  dsimp only [diagnostics]
  rw [resolve_ofDeclarations, Resolve.filter_diagnostics heeded others,
    List.forall₂_map_right_iff]
  exact reported.imp fun _ issue about => ⟨issue, about, rfl⟩

end GrammarBuilder

namespace Sample

/-- A production that is declared without a meaning. -/
def declared (rule : String) (clauses : List (Clause Mark)) : Declaration Mark Unit Unit :=
  .given ⟨⟨rule, clauses⟩, fun _ _ => ((), ())⟩

/-- Two rules, each of which has an alternative that begins with the other one. -/
def circle : List (Declaration Mark Unit Unit) :=
  [declared "a" [.rule "b", .terminal .comma], declared "a" [.terminal .closing],
    declared "b" [.rule "a", .terminal .opening], declared "b" [.terminal .word]]

/-- The circle, and a rule that has nothing to do with it. -/
def circleAndWords : List (Declaration Mark Unit Unit) :=
  circle ++ [declared "c" [.terminal .word, .terminal .comma], declared "c" [.terminal .word]]

end Sample

namespace GrammarBuilder

/-- Besides an overlap in the circle that of the clear alternatives is reported. -/
theorem overlaps_reported_circle :
    let declared := Sample.circleAndWords.filterMap (·.production? fun _ => none)
    let productions := declared.map (·.toProduction)
    OverlapPolicy.warn ≠ .allow ∧ ∃ pairs : List BranchPair, pairs.length = 2 ∧
      (∀ pair ∈ pairs, pair.Overlaps productions) ∧ ⟨.rule "c", 0, 1⟩ ∈ pairs := by
  intro declared productions
  have heeded : OverlapPolicy.warn ≠ .allow := by decide
  obtain ⟨pairs, -, only, all, reported⟩ :=
    overlaps_reported .warn heeded (fun _ => none) Sample.circleAndWords
  have stands : Fork.StandsIn productions ⟨.rule "c",
      (Production.alternatives productions "c").map .sequence, .sharedByAlternatives "c"⟩ :=
    .rule (by decide)
  have count : pairs.length = 2 := reported.length_eq.trans (by decide)
  refine ⟨heeded, pairs, count, only, all ⟨.rule "c", 0, 1⟩ ?_ ?_⟩
  · -- Both alternatives begin with a token.
    intro fork stands' here branch found
    cases stands' with
    | choice => cases here
    | rule listed =>
      cases here
      rcases found with found | found <;> cases found <;>
        exact Clause.untangled_terminal_cons Sample.Mark.word _
  · exact ⟨_, stands, rfl, Sample.Mark.word, by decide, _, _, rfl, rfl, .here (.terminal _),
      .here (.terminal _)⟩

/-- A word can begin both alternatives of the second rule of the circle. Which rule the overlap is
reported for depends on which of them was declared first. -/
theorem overlaps_missed_circle :
    let declared := Sample.circle.filterMap (·.production? fun _ => none)
    let subjects (declarations : List (Declaration Sample.Mark Unit Unit)) :=
      ((ofDeclarations .warn (fun _ => none) declarations).resolve.diagnostics.filter
        (·.code = .ambiguousAlternatives)).map (·.subject)
    BranchPair.Overlaps (declared.map (·.toProduction)) ⟨.rule "b", 0, 1⟩ ∧
      subjects Sample.circle = [some "a"] ∧ subjects (Sample.circle.rotate 2) = [some "b"] := by
  intro declared subjects
  have listed : "b" ∈ Production.names (declared.map (·.toProduction)) := by decide
  refine ⟨⟨_, .rule listed, rfl, Sample.Mark.word, by decide, _, _, rfl, rfl, ?_,
    .here (.terminal _)⟩, by decide, by decide⟩
  -- The first alternative begins with the other rule, and that with this rule.
  have word : [.terminal .word] ∈ Production.alternatives (declared.map (·.toProduction)) "b" := by
    decide
  have back : [.rule "b", .terminal .comma] ∈
      Production.alternatives (declared.map (·.toProduction)) "a" := by decide
  exact .here (.rule back (.here (.rule word (.here (.terminal _)))))

end GrammarBuilder

end Lookahead
