import Lookahead.Grammar.Nullable
import Lookahead.KindSet

/-!
# First sets

The first set of a clause holds the kinds that a match of the clause can begin with. The sets of
rules are found depth first and kept in a memo. A rule that is met again while its own set is
being found adds nothing at that place; so with left recursion what the memo holds depends on
which rule was asked for first.
-/

namespace Lookahead

/-- How far the search for the first set of a rule has come. -/
inductive FirstProgress (K : Type) [TokenKind K] where
  /-- The set is being found. -/
  | entered
  /-- The set was found. -/
  | found (set : KindSet K)
  deriving DecidableEq

/-- What is known about the first sets of the rules, the latest news in front. -/
abbrev FirstMemo (K : Type) [TokenKind K] := List (String × FirstProgress K)

namespace Clause

variable {K : Type} [TokenKind K]

mutual
/-- The first set of a clause. `visit` finds the first set of a rule, and `empty` tells which
rules can match nothing. -/
def first (visit : String → FirstMemo K → KindSet K × FirstMemo K) (empty : String → Bool) :
    Clause K → FirstMemo K → KindSet K × FirstMemo K
  | .terminal kind, memo => (.singleton kind, memo)
  | .rule name, memo => visit name memo
  | .sequence items, memo => firstOfSequence visit empty items memo
  | .choice members, memo => firstOfChoice visit empty members memo
  | .zeroOrMore body, memo => first visit empty body memo
  | .oneOrMore body, memo => first visit empty body memo
  | .optional body, memo => first visit empty body memo
  | .group body _, memo => first visit empty body memo

/-- The first set of clauses that are matched one after the other: a clause counts if all those
in front of it can match nothing. -/
def firstOfSequence (visit : String → FirstMemo K → KindSet K × FirstMemo K)
    (empty : String → Bool) : List (Clause K) → FirstMemo K → KindSet K × FirstMemo K
  | [], memo => (∅, memo)
  | clause :: rest, memo =>
    let here := first visit empty clause memo
    if clause.nullable empty then
      let onward := firstOfSequence visit empty rest here.2
      (here.1 ∪ onward.1, onward.2)
    else here

/-- The first set of clauses of which one is matched. -/
def firstOfChoice (visit : String → FirstMemo K → KindSet K × FirstMemo K)
    (empty : String → Bool) : List (Clause K) → FirstMemo K → KindSet K × FirstMemo K
  | [], memo => (∅, memo)
  | clause :: rest, memo =>
    let here := first visit empty clause memo
    let onward := firstOfChoice visit empty rest here.2
    (here.1 ∪ onward.1, onward.2)
end

end Clause

/-- Productions with the rules among them that can match nothing. -/
structure Analysis (K : Type) where
  productions : List (Production K)
  nullableRules : List String

namespace Analysis

variable {K : Type}

/-- Finds the rules of `productions` that can match nothing. -/
def ofProductions (productions : List (Production K)) : Analysis K :=
  ⟨productions, Production.nullableRules productions⟩

/-- Whether the rule `name` can match nothing. -/
def ruleNullable (analysis : Analysis K) (name : String) : Bool :=
  analysis.nullableRules.contains name

/-- Whether a clause can match nothing. -/
def nullable (analysis : Analysis K) (clause : Clause K) : Bool :=
  clause.nullable analysis.ruleNullable

/-- Whether clauses can match nothing one after the other. -/
def sequenceNullable (analysis : Analysis K) (clauses : List (Clause K)) : Bool :=
  Clause.nullableAll analysis.ruleNullable clauses

variable [TokenKind K]

/-- The union of the first sets of right-hand sides, `find` giving the first set of one. -/
def firstOfAlternatives (find : List (Clause K) → FirstMemo K → KindSet K × FirstMemo K) :
    List (List (Clause K)) → FirstMemo K → KindSet K × FirstMemo K
  | [], memo => (∅, memo)
  | clauses :: rest, memo =>
    let here := find clauses memo
    let onward := firstOfAlternatives find rest here.2
    (here.1 ∪ onward.1, onward.2)

/-- The first set of the rule `name`, entering at most `bound` rules inside one another. -/
def visitRule (analysis : Analysis K) :
    Nat → String → FirstMemo K → KindSet K × FirstMemo K
  | 0, name, memo =>
    match memo.lookup name with
    | some (.found set) => (set, memo)
    | _ => (∅, memo)
  | bound + 1, name, memo =>
    match memo.lookup name with
    | some (.found set) => (set, memo)
    | some .entered =>
      -- The rule leads back to itself, and the visit that is under way finds its set.
      (∅, memo)
    | none =>
      if Production.defines analysis.productions name then
        -- The rule is entered before its alternatives are visited, and found behind them.
        let result := firstOfAlternatives
          (Clause.firstOfSequence (visitRule analysis bound) analysis.ruleNullable)
          (Production.alternatives analysis.productions name) ((name, .entered) :: memo)
        (result.1, (name, .found result.1) :: result.2)
      else (∅, memo)

/-- The first set of the rule `name`. A rule is entered once, so no more rules are entered
inside one another than there are. -/
def ruleFirst (analysis : Analysis K) (name : String) (memo : FirstMemo K) :
    KindSet K × FirstMemo K :=
  analysis.visitRule (Production.names analysis.productions).length name memo

/-- The first set of a clause. -/
def first (analysis : Analysis K) (clause : Clause K) (memo : FirstMemo K) :
    KindSet K × FirstMemo K :=
  clause.first analysis.ruleFirst analysis.ruleNullable memo

/-- The first set of clauses that are matched one after the other. -/
def sequenceFirst (analysis : Analysis K) (clauses : List (Clause K)) (memo : FirstMemo K) :
    KindSet K × FirstMemo K :=
  Clause.firstOfSequence analysis.ruleFirst analysis.ruleNullable clauses memo

/-- The first sets of several things one after the other, `find` giving the first set of one. -/
def firstOfEach {α : Type} (find : α → FirstMemo K → KindSet K × FirstMemo K) :
    List α → FirstMemo K → List (KindSet K) × FirstMemo K
  | [], memo => ([], memo)
  | item :: rest, memo =>
    let here := find item memo
    let onward := firstOfEach find rest here.2
    (here.1 :: onward.1, onward.2)

end Analysis

end Lookahead
