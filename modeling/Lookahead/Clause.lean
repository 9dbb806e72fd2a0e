import Lookahead.Token

/-!
# Clauses

The right-hand side of a production is a list of clauses, the constructs of extended BNF. This
module holds the type of clauses, what a clause mentions, and how clauses are written.
-/

namespace Lookahead

/-- A construct on the right-hand side of a production. -/
inductive Clause (K : Type) where
  /-- One token of the kind. -/
  | terminal (kind : K)
  /-- A match of the rule of that name. -/
  | rule (name : String)
  /-- A match of every item, one after the other. -/
  | sequence (items : List (Clause K))
  /-- A match of one of the members. -/
  | choice (members : List (Clause K))
  /-- Any number of matches of the body. -/
  | zeroOrMore (body : Clause K)
  /-- At least one match of the body. -/
  | oneOrMore (body : Clause K)
  /-- A match of the body, or nothing. -/
  | optional (body : Clause K)
  /-- A match of the body, set apart from its surroundings and perhaps labelled. -/
  | group (body : Clause K) (label : Option String)
  deriving Repr

namespace Clause

variable {K : Type}

/-- What holds of a clause whenever it holds of the clauses right inside it holds of every
clause. -/
@[induction_eliminator]
theorem induction {motive : Clause K → Prop} (terminal : ∀ kind, motive (.terminal kind))
    (rule : ∀ name, motive (.rule name))
    (sequence : ∀ items, (∀ item ∈ items, motive item) → motive (.sequence items))
    (choice : ∀ members, (∀ member ∈ members, motive member) → motive (.choice members))
    (zeroOrMore : ∀ body, motive body → motive (.zeroOrMore body))
    (oneOrMore : ∀ body, motive body → motive (.oneOrMore body))
    (optional : ∀ body, motive body → motive (.optional body))
    (group : ∀ body label, motive body → motive (.group body label)) (clause : Clause K) :
    motive clause :=
  @Clause.rec K motive (fun clauses => ∀ clause ∈ clauses, motive clause) terminal rule sequence
    choice zeroOrMore oneOrMore optional group (by simp)
    (fun _ _ first others => List.forall_mem_cons.mpr ⟨first, others⟩) clause

/-! ### Equality -/

section Equality

variable [DecidableEq K]

mutual
/-- Whether two clauses have the same structure. -/
def same : Clause K → Clause K → Bool
  | .terminal a, .terminal b => a = b
  | .rule a, .rule b => a = b
  | .sequence a, .sequence b => sameAll a b
  | .choice a, .choice b => sameAll a b
  | .zeroOrMore a, .zeroOrMore b => same a b
  | .oneOrMore a, .oneOrMore b => same a b
  | .optional a, .optional b => same a b
  | .group a x, .group b y => same a b && x = y
  | _, _ => false

/-- Whether two lists of clauses have the same structure. -/
def sameAll : List (Clause K) → List (Clause K) → Bool
  | [], [] => true
  | a :: as, b :: bs => same a b && sameAll as bs
  | _, _ => false
end

mutual
theorem same_iff : (a b : Clause K) → (same a b = true ↔ a = b)
  | .terminal _, b => by cases b <;> simp [same]
  | .rule _, b => by cases b <;> simp [same]
  | .sequence a, b => by cases b <;> simp [same, sameAll_iff a]
  | .choice a, b => by cases b <;> simp [same, sameAll_iff a]
  | .zeroOrMore a, b => by cases b <;> simp [same, same_iff a]
  | .oneOrMore a, b => by cases b <;> simp [same, same_iff a]
  | .optional a, b => by cases b <;> simp [same, same_iff a]
  | .group a _, b => by cases b <;> simp [same, same_iff a]

theorem sameAll_iff : (as bs : List (Clause K)) → (sameAll as bs = true ↔ as = bs)
  | [], bs => by cases bs <;> simp [sameAll]
  | a :: as, bs => by cases bs <;> simp [sameAll, same_iff a, sameAll_iff as]
end

instance : DecidableEq (Clause K) := fun a b => decidable_of_iff _ (same_iff a b)

end Equality

/-! ### What a clause mentions -/

mutual
/-- Every rule name in a clause, at any depth, from left to right. -/
def ruleNames : Clause K → List String
  | .terminal _ => []
  | .rule name => [name]
  | .sequence items => ruleNamesAll items
  | .choice members => ruleNamesAll members
  | .zeroOrMore body => ruleNames body
  | .oneOrMore body => ruleNames body
  | .optional body => ruleNames body
  | .group body _ => ruleNames body

/-- Every rule name in a list of clauses, from left to right. -/
def ruleNamesAll : List (Clause K) → List String
  | [] => []
  | clause :: rest => ruleNames clause ++ ruleNamesAll rest
end

mutual
/-- The members of every choice in a clause, an outer choice in front of those inside it. -/
def choices : Clause K → List (List (Clause K))
  | .terminal _ => []
  | .rule _ => []
  | .sequence items => choicesAll items
  | .choice members => members :: choicesAll members
  | .zeroOrMore body => choices body
  | .oneOrMore body => choices body
  | .optional body => choices body
  | .group body _ => choices body

/-- The members of every choice in a list of clauses. -/
def choicesAll : List (Clause K) → List (List (Clause K))
  | [] => []
  | clause :: rest => choices clause ++ choicesAll rest
end

/-! ### How clauses are written -/

/-- Whether the clause is a sequence, which brings parentheses of its own. -/
def isSequence : Clause K → Bool
  | .sequence _ => true
  | _ => false

variable [TokenKind K]

mutual
/-- The written form of a clause. -/
def text : Clause K → String
  | .terminal kind => TokenKind.label kind
  | .rule name => name
  | .sequence items => "(" ++ String.join ((texts items).map (" " ++ ·)) ++ " )"
  | .choice members => "[" ++ " |".intercalate ((texts members).map (" " ++ ·)) ++ " ]"
  | .zeroOrMore body => text body ++ "*"
  | .oneOrMore body => text body ++ "+"
  | .optional body => text body ++ "?"
  | .group body label =>
    let mark :=
      match label with
      | some name => name ++ ":"
      | none => ""
    mark ++ if body.isSequence then text body else "( " ++ text body ++ " )"

/-- The written forms of the clauses in a list. -/
def texts : List (Clause K) → List String
  | [] => []
  | clause :: rest => text clause :: texts rest
end

instance : ToString (Clause K) := ⟨text⟩

/-- The written form of a right-hand side. -/
def sequenceText (clauses : List (Clause K)) : String :=
  if clauses.isEmpty then "ε" else " ".intercalate (texts clauses)

end Clause

end Lookahead
