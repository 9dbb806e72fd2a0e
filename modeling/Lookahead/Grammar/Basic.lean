import Lookahead.Grammar.First

/-!
# Grammars

A grammar that was resolved: its rules, and with each rule and alternative the kinds that a
match can begin with and whether a match can be empty. That is all the parser needs to choose an
alternative by the next token.
-/

namespace Lookahead

/-- An alternative of a rule, with what predicts it. -/
structure Alternative (K V C : Type) [TokenKind K] where
  clauses : List (Clause K)
  /-- The kinds that a match can begin with. -/
  first : KindSet K
  /-- Whether a match can be empty. -/
  mayBeEmpty : Bool
  action : Action K V C

/-- A rule with its alternatives in the order of declaration. -/
structure Rule (K V C : Type) [TokenKind K] where
  name : String
  alternatives : List (Alternative K V C)
  first : KindSet K
  mayBeEmpty : Bool

/-- A grammar over the kinds `K`, with values of type `V` and contexts of type `C`. -/
structure Grammar (K V C : Type) [TokenKind K] where
  /-- The rules in the order of their first production. -/
  rules : List (Rule K V C)

namespace Clause

variable {K : Type} [TokenKind K]

mutual
/-- Whether a match of a clause can begin with a token of the kind, where `first` gives the
first sets of the rules and `empty` tells which of them can match nothing. -/
def starts (first : String → KindSet K) (empty : String → Bool) (kind : K) : Clause K → Bool
  | .terminal expected => expected = kind
  | .rule name => kind ∈ first name
  | .sequence items => startsSequence first empty kind items
  | .choice members => startsAny first empty kind members
  | .zeroOrMore body => starts first empty kind body
  | .oneOrMore body => starts first empty kind body
  | .optional body => starts first empty kind body
  | .group body _ => starts first empty kind body

/-- Whether a match of clauses one after the other can begin with a token of the kind. -/
def startsSequence (first : String → KindSet K) (empty : String → Bool) (kind : K) :
    List (Clause K) → Bool
  | [] => false
  | clause :: rest =>
    starts first empty kind clause ||
      (clause.nullable empty && startsSequence first empty kind rest)

/-- Whether a match of one of the clauses can begin with a token of the kind. -/
def startsAny (first : String → KindSet K) (empty : String → Bool) (kind : K) :
    List (Clause K) → Bool
  | [] => false
  | clause :: rest => starts first empty kind clause || startsAny first empty kind rest
end

mutual
/-- The kinds that a match of a clause can begin with, by the first sets of the rules. -/
def firstKinds (first : String → KindSet K) (empty : String → Bool) : Clause K → KindSet K
  | .terminal kind => .singleton kind
  | .rule name => first name
  | .sequence items => firstKindsSequence first empty items
  | .choice members => firstKindsAny first empty members
  | .zeroOrMore body => firstKinds first empty body
  | .oneOrMore body => firstKinds first empty body
  | .optional body => firstKinds first empty body
  | .group body _ => firstKinds first empty body

/-- The kinds that a match of clauses one after the other can begin with. -/
def firstKindsSequence (first : String → KindSet K) (empty : String → Bool) :
    List (Clause K) → KindSet K
  | [] => ∅
  | clause :: rest =>
    if clause.nullable empty then
      firstKinds first empty clause ∪ firstKindsSequence first empty rest
    else firstKinds first empty clause

/-- The kinds that a match of one of the clauses can begin with. -/
def firstKindsAny (first : String → KindSet K) (empty : String → Bool) :
    List (Clause K) → KindSet K
  | [] => ∅
  | clause :: rest => firstKinds first empty clause ∪ firstKindsAny first empty rest
end

end Clause

namespace Grammar

variable {K V C : Type} [TokenKind K]

/-- The rule of that name. -/
def rule? (grammar : Grammar K V C) (name : String) : Option (Rule K V C) :=
  grammar.rules.find? (·.name = name)

/-- The names of the rules in the order of their first production. -/
def ruleNames (grammar : Grammar K V C) : List String := grammar.rules.map (·.name)

/-- The kinds that a match of the rule `name` can begin with; none for an unknown rule. -/
def ruleFirst (grammar : Grammar K V C) (name : String) : KindSet K :=
  match grammar.rule? name with
  | some rule => rule.first
  | none => ∅

/-- Whether a match of the rule `name` can be empty; not so for an unknown rule. -/
def ruleMayBeEmpty (grammar : Grammar K V C) (name : String) : Bool :=
  match grammar.rule? name with
  | some rule => rule.mayBeEmpty
  | none => false

/-- Whether the clause can match without reading a token. -/
def nullable (grammar : Grammar K V C) (clause : Clause K) : Bool :=
  clause.nullable grammar.ruleMayBeEmpty

/-- Whether the next token can begin a match of the clause. No token can where the tokens have
ended. -/
def starts (grammar : Grammar K V C) (clause : Clause K) : Option K → Bool
  | none => false
  | some kind => clause.starts grammar.ruleFirst grammar.ruleMayBeEmpty kind

/-- The kinds that a match of the clause can begin with. -/
def firstOf (grammar : Grammar K V C) (clause : Clause K) : KindSet K :=
  clause.firstKinds grammar.ruleFirst grammar.ruleMayBeEmpty

/-- The sign of what can match nothing. -/
def emptySign (mayBeEmpty : Bool) : String := if mayBeEmpty then " ε" else ""

/-- One alternative in the listing of a grammar. -/
def alternativeLine (number : Nat) (alternative : Alternative K V C) : String :=
  "  " ++ (if number = 0 then ":" else "|") ++ " " ++ Clause.sequenceText alternative.clauses ++
    " " ++ toString alternative.first ++ emptySign alternative.mayBeEmpty ++ "\n"

/-- One rule in the listing of a grammar. -/
def ruleLines (rule : Rule K V C) : String :=
  rule.name ++ " " ++ toString rule.first ++ emptySign rule.mayBeEmpty ++ "\n" ++
    String.join (rule.alternatives.mapIdx alternativeLine)

/-- The listing of all rules and alternatives, each with its first set. -/
def dump (grammar : Grammar K V C) : String := String.join (grammar.rules.map ruleLines)

end Grammar

end Lookahead
