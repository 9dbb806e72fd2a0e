import Lookahead.Grammar.Production

/-!
# Clauses that can match nothing

Whether a clause can match without reading a token depends on which rules can. Those are found
by sweeping over the rules until a sweep finds nothing new.
-/

namespace Lookahead

namespace Clause

variable {K : Type}

mutual
/-- Whether a clause can match nothing, where `empty` tells which rules can. -/
def nullable (empty : String → Bool) : Clause K → Bool
  | .terminal _ => false
  | .rule name => empty name
  | .sequence items => nullableAll empty items
  | .choice members => nullableAny empty members
  | .zeroOrMore _ => true
  | .oneOrMore body => nullable empty body
  | .optional _ => true
  | .group body _ => nullable empty body

/-- Whether every clause of a list can match nothing. -/
def nullableAll (empty : String → Bool) : List (Clause K) → Bool
  | [] => true
  | clause :: rest => nullable empty clause && nullableAll empty rest

/-- Whether some clause of a list can match nothing. -/
def nullableAny (empty : String → Bool) : List (Clause K) → Bool
  | [] => false
  | clause :: rest => nullable empty clause || nullableAny empty rest
end

end Clause

namespace Production

variable {K : Type}

/-- Adds `name` to the rules known to match nothing, if an alternative of it can match nothing
by what is known. -/
def noteNullable (productions : List (Production K)) (known : List String) (name : String) :
    List String :=
  if !known.contains name &&
      (alternatives productions name).any (Clause.nullableAll (known.contains ·)) then
    known ++ [name]
  else known

/-- One sweep over all rules. What is found for one rule is used for those behind it. -/
def sweepNullable (productions : List (Production K)) (known : List String) : List String :=
  (names productions).foldl (noteNullable productions) known

/-- Sweeps until nothing new is found, but at most `bound` times. -/
def nullableFrom (productions : List (Production K)) : Nat → List String → List String
  | 0, known => known
  | bound + 1, known =>
    let more := sweepNullable productions known
    if more.length = known.length then known else nullableFrom productions bound more

/-- The rules that can match nothing. Every sweep but the last finds a rule, so there are no
more sweeps that find one than there are rules. -/
def nullableRules (productions : List (Production K)) : List String :=
  nullableFrom productions (names productions).length []

end Production

end Lookahead
