import Lookahead.Diagnostic
import Lookahead.Grammar.ProductionText
import Lookahead.KindSet

/-!
# What can be wrong with a grammar
-/

namespace Lookahead

/-- What to do about alternatives that can begin with the same kind. The parser takes the first
one, so the others are never chosen for that kind. -/
inductive OverlapPolicy where
  | allow
  | warn
  | reject
  deriving DecidableEq, Repr, Inhabited

/-- What can be wrong with a grammar. Alternatives and members of a choice are counted from
zero. -/
inductive GrammarIssue (K : Type) [TokenKind K] where
  /-- The text is not a production. -/
  | invalidText (text : List Char) (error : ProductionText.ReadError)
  /-- There is nothing to resolve. -/
  | noProductions
  /-- The rule mentions a name that no production has. -/
  | undefinedRule (rule name : String)
  /-- Two alternatives of the rule have the same clauses. -/
  | duplicateAlternative (rule : String) (first second : Nat) (clauses : List (Clause K))
  /-- The rule leads back to itself by the chain. -/
  | leftRecursion (rule : String) (chain : List String)
  /-- Two alternatives of the rule can begin with the same kinds. -/
  | sharedByAlternatives (rule : String) (first second : Nat) (shared : KindSet K)
  /-- Two members of a choice in the rule can begin with the same kinds. -/
  | sharedByMembers (rule : String) (members : List (Clause K)) (first second : Nat)
    (shared : KindSet K)
  /-- No production has the name of the start rule. -/
  | unknownStart (rule : String)
  deriving DecidableEq

namespace GrammarIssue

variable {K : Type} [TokenKind K]

/-- How bad an overlap is. Under `allow` none is reported. -/
def overlapSeverity : OverlapPolicy → Severity
  | .reject => .fatal
  | _ => .warning

/-- A name between back quotes. -/
def quoted (name : String) : String := "`" ++ name ++ "`"

/-- Two numbers behind hash signs. -/
def numbered (first second : Nat) : String :=
  "#" ++ toString first ++ " and #" ++ toString second

/-- How an issue is reported. -/
def diagnostic (policy : OverlapPolicy) : GrammarIssue K → Diagnostic
  | .invalidText text error =>
    ⟨.fatal, .invalidRuleText, "cannot read production " ++ quoted (String.ofList text) ++ ": " ++
      error.describe, none⟩
  | .noProductions => ⟨.fatal, .emptyGrammar, "the grammar has no productions", none⟩
  | .undefinedRule rule name =>
    ⟨.fatal, .undefinedRule, "rule " ++ quoted rule ++ " refers to undefined rule " ++
      quoted name, some rule⟩
  | .duplicateAlternative rule first second clauses =>
    ⟨.fatal, .duplicateAlternative, "alternatives " ++ numbered first second ++ " of rule " ++
      quoted rule ++ " are both " ++ quoted (Clause.sequenceText clauses), some rule⟩
  | .leftRecursion rule chain =>
    ⟨.fatal, .leftRecursion, "rule " ++ quoted rule ++ " is left recursive: " ++
      " -> ".intercalate (chain ++ [rule]), some rule⟩
  | .sharedByAlternatives rule first second shared =>
    ⟨overlapSeverity policy, .ambiguousAlternatives, "alternatives " ++ numbered first second ++
      " of rule " ++ quoted rule ++ " can both start with " ++ toString shared, some rule⟩
  | .sharedByMembers rule members first second shared =>
    ⟨overlapSeverity policy, .ambiguousAlternatives, "choice " ++ Clause.text (.choice members) ++
      " in rule " ++ quoted rule ++ " has alternatives " ++ numbered first second ++
      " that can both start with " ++ toString shared, some rule⟩
  | .unknownStart rule =>
    ⟨.fatal, .unknownStartRule, "start rule " ++ quoted rule ++ " is not defined", some rule⟩

end GrammarIssue

end Lookahead
