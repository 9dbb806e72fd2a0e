import Lookahead.Grammar.First

/-!
# Left recursion

A rule leads with another one if a match of it can begin with a match of the other before any
token is read. A rule that leads back to itself is left recursive, and the shortest chain that
shows it is found breadth first.
-/

namespace Lookahead

namespace Clause

variable {K : Type}

mutual
/-- The rule names that a match of a clause can begin with, from left to right. -/
def leading (empty : String → Bool) : Clause K → List String
  | .terminal _ => []
  | .rule name => [name]
  | .sequence items => leadingOfSequence empty items
  | .choice members => leadingOfChoice empty members
  | .zeroOrMore body => leading empty body
  | .oneOrMore body => leading empty body
  | .optional body => leading empty body
  | .group body _ => leading empty body

/-- The rule names that clauses matched one after the other can begin with. -/
def leadingOfSequence (empty : String → Bool) : List (Clause K) → List String
  | [] => []
  | clause :: rest =>
    leading empty clause ++ if clause.nullable empty then leadingOfSequence empty rest else []

/-- The rule names that clauses of which one is matched can begin with. -/
def leadingOfChoice (empty : String → Bool) : List (Clause K) → List String
  | [] => []
  | clause :: rest => leading empty clause ++ leadingOfChoice empty rest
end

end Clause

namespace Analysis

variable {K : Type}

/-- Goes from chain to chain until one leads back to `goal`. A chain lists rules from the last
to the first; `seen` are the rules that some chain has reached. -/
def searchCycle (next : String → List String) (goal : String) :
    Nat → List (List String) → List String → Option (List String)
  | 0, _, _ => none
  | _ + 1, [], _ => none
  | bound + 1, chain :: chains, seen =>
    let reached := next (chain.headD goal)
    if reached.contains goal then some chain.reverse
    else
      -- Chains wait in the order of their length, so the first one that comes back is shortest.
      let fresh := reached.filter (!seen.contains ·)
      searchCycle next goal bound (chains ++ fresh.map (· :: chain)) (seen ++ fresh)

/-- The defined rules that the rule `name` leads with, each once, from left to right. -/
def leadsWith (analysis : Analysis K) (name : String) : List String :=
  (((Production.alternatives analysis.productions name).flatMap
    (Clause.leadingOfSequence analysis.ruleNullable)).filter
      (Production.defines analysis.productions)).eraseDups

/-- The shortest chain of rules from the rule `name` back to itself. Every rule is reached by at
most one chain. -/
def cycle? (analysis : Analysis K) (name : String) : Option (List String) :=
  searchCycle analysis.leadsWith name ((Production.names analysis.productions).length + 1)
    [[name]] []

/-- The left recursive rules in the order of declaration, each with its chain. -/
def leftRecursion (analysis : Analysis K) : List (String × List String) :=
  (Production.names analysis.productions).filterMap fun name =>
    (analysis.cycle? name).map (name, ·)

end Analysis

end Lookahead
