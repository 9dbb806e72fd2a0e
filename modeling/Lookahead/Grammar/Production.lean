import Lookahead.Clause
import Lookahead.Tree

/-!
# Productions

A grammar is declared as a list of productions. The productions of one name are the alternatives
of one rule, in the order in which they are declared; rules come in the order of their first
production.
-/

namespace Lookahead

/-- One alternative of the rule `rule`. -/
structure Production (K : Type) where
  rule : String
  clauses : List (Clause K)
  deriving Repr

/-- What is done when an alternative has been matched: from the trees of its clauses and the
context of the parse it makes the value of the node and the context to go on with. -/
abbrev Action (K V C : Type) := List (Tree K V) → C → V × C

/-- A production with its action. -/
structure SemanticProduction (K V C : Type) extends Production K where
  action : Action K V C

namespace Production

variable {K : Type}

/-- The names of the rules, in the order of their first production. -/
def names (productions : List (Production K)) : List String :=
  (productions.map (·.rule)).eraseDups

/-- The right-hand sides of the rule `name`, in the order of declaration. -/
def alternatives (productions : List (Production K)) (name : String) : List (List (Clause K)) :=
  (productions.filter (·.rule = name)).map (·.clauses)

/-- Whether there is a rule `name`. -/
def defines (productions : List (Production K)) (name : String) : Bool :=
  productions.any (·.rule = name)

end Production

end Lookahead
