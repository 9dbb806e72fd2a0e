import Lookahead.Build
import Lookahead.Grammar.Basic
import Lookahead.Grammar.Issue
import Lookahead.Grammar.LeftRecursion

/-!
# Resolving productions into a grammar

Every problem of the productions is found at once: names without a production, alternatives
declared twice, left recursion, and alternatives that the next token cannot tell apart. First
sets are found with one memo for all of them, first for the productions, then for the rules, then
for the members of choices.
-/

namespace Lookahead

namespace Resolve

variable {K V C : Type} [TokenKind K]

/-- The names without a production, once for each rule that mentions them. -/
def undefinedRules (productions : List (Production K)) : List (GrammarIssue K) :=
  let mentions := productions.flatMap fun production =>
    (Clause.ruleNamesAll production.clauses).map (production.rule, ·)
  let undefined := mentions.filter fun mention => !Production.defines productions mention.2
  undefined.eraseDups.map fun mention => .undefinedRule mention.1 mention.2

/-- The alternatives of the rule `name` that are equal to an earlier one, each with the first
alternative that it is equal to. -/
def duplicatesOf (productions : List (Production K)) (name : String) : List (GrammarIssue K) :=
  let alternatives := Production.alternatives productions name
  alternatives.zipIdx.filterMap fun (later, second) =>
    ((alternatives.take second).findIdx? (· = later)).map fun first =>
      .duplicateAlternative name first second later

/-- The alternatives that are equal to an earlier one of the same rule. -/
def duplicates (productions : List (Production K)) : List (GrammarIssue K) :=
  (Production.names productions).flatMap (duplicatesOf productions)

/-- The left recursive rules. -/
def leftRecursive (analysis : Analysis K) : List (GrammarIssue K) :=
  analysis.leftRecursion.map fun (rule, chain) => .leftRecursion rule chain

/-- The pairs of sets that have common members, each pair once, ordered by the later set and
then by the earlier one, with what they have in common. -/
def overlaps (sets : List (KindSet K)) : List (Nat × Nat × KindSet K) :=
  sets.zipIdx.flatMap fun (later, second) =>
    (sets.take second).zipIdx.filterMap fun (earlier, first) =>
      let shared := earlier ∩ later
      if shared.isEmpty then none else some (first, second, shared)

/-- The overlaps between alternatives, where `sets` are the first sets of the productions. -/
def alternativeOverlaps (productions : List (Production K)) (sets : List (KindSet K)) :
    List (GrammarIssue K) :=
  (Production.names productions).flatMap fun name =>
    let own := ((productions.zip sets).filter (·.1.rule = name)).map (·.2)
    (overlaps own).map fun (first, second, shared) =>
      .sharedByAlternatives name first second shared

/-- The choices of all productions, each with the rule that it is in. -/
def allChoices (productions : List (Production K)) : List (String × List (Clause K)) :=
  productions.flatMap fun production =>
    (Clause.choicesAll production.clauses).map (production.rule, ·)

/-- The overlaps between members of choices. -/
def choiceOverlaps (analysis : Analysis K) :
    List (String × List (Clause K)) → FirstMemo K → List (GrammarIssue K)
  | [], _ => []
  | (rule, members) :: rest, memo =>
    let sets := Analysis.firstOfEach analysis.first members memo
    (overlaps sets.1).map (fun (first, second, shared) =>
      GrammarIssue.sharedByMembers rule members first second shared) ++
      choiceOverlaps analysis rest sets.2

/-- The first sets that are found while productions are resolved. -/
structure FirstSets (K : Type) [TokenKind K] where
  ofProductions : List (KindSet K)
  ofRules : List (KindSet K)
  memo : FirstMemo K

/-- The first sets of all productions and then of all rules. -/
def firstSets (analysis : Analysis K) : FirstSets K :=
  let productions := Analysis.firstOfEach (fun production : Production K =>
    analysis.sequenceFirst production.clauses) analysis.productions []
  let rules := Analysis.firstOfEach analysis.ruleFirst (Production.names analysis.productions)
    productions.2
  ⟨productions.1, rules.1, rules.2⟩

/-- Everything that is wrong with productions, of which there is at least one. -/
def issues (policy : OverlapPolicy) (productions : List (Production K)) :
    List (GrammarIssue K) :=
  let analysis := Analysis.ofProductions productions
  let sets := firstSets analysis
  let overlapping :=
    if policy = .allow then []
    else
      alternativeOverlaps productions sets.ofProductions ++
        choiceOverlaps analysis (allChoices productions) sets.memo
  undefinedRules productions ++ duplicates productions ++ leftRecursive analysis ++ overlapping

/-- The grammar of the productions: for every name a rule with the productions of that name. -/
def grammar (productions : List (SemanticProduction K V C)) : Grammar K V C :=
  let bare := productions.map (·.toProduction)
  let analysis := Analysis.ofProductions bare
  let sets := firstSets analysis
  let alternatives := (productions.zip sets.ofProductions).map fun (production, first) =>
    (production.rule, (⟨production.clauses, first,
      analysis.sequenceNullable production.clauses, production.action⟩ : Alternative K V C))
  ⟨((Production.names bare).zip sets.ofRules).map fun (name, first) =>
    ⟨name, (alternatives.filter (·.1 = name)).map (·.2), first, analysis.ruleNullable name⟩⟩

end Resolve

variable {K V C : Type} [TokenKind K]

/-- Resolves productions into a grammar. `pending` are the issues that are known before. -/
def Grammar.resolve (policy : OverlapPolicy) (pending : List (GrammarIssue K))
    (productions : List (SemanticProduction K V C)) : Build (Grammar K V C) :=
  match productions with
  | [] => .failed ((pending ++ [GrammarIssue.noProductions]).map (GrammarIssue.diagnostic policy))
  | _ :: _ =>
    .ofValue (Resolve.grammar productions)
      ((pending ++ Resolve.issues policy (productions.map (·.toProduction))).map
        (GrammarIssue.diagnostic policy))

end Lookahead
