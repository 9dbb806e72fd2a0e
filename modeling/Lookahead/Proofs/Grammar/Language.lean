import Lookahead.Proofs.Grammar.Coherence

/-!
# The language of a clause

The words of a clause are those of extended BNF: a terminal stands for one kind, a rule for what
one of its alternatives stands for, a sequence for the words of its items put one behind the other,
a choice for what a member stands for, and the repetitions for words of the body put one behind
the other. A word that is empty makes the clause nullable, and a word that is not begins with a
kind that the clause can begin with.
-/

namespace Lookahead

/-- The word is in the language of the clause, where `alternatives` tells what the rules stand
for. A rule without alternatives has no words. -/
inductive Clause.Derives {K : Type} (alternatives : String → List (List (Clause K))) :
    Clause K → List K → Prop
  | terminal (kind : K) : Derives alternatives (.terminal kind) [kind]
  | rule {name clauses word} :
      clauses ∈ alternatives name → Derives alternatives (.sequence clauses) word →
      Derives alternatives (.rule name) word
  | nil : Derives alternatives (.sequence []) []
  | cons {clause rest word words} :
      Derives alternatives clause word → Derives alternatives (.sequence rest) words →
      Derives alternatives (.sequence (clause :: rest)) (word ++ words)
  | choice {member members word} :
      member ∈ members → Derives alternatives member word →
      Derives alternatives (.choice members) word
  | stop {body} : Derives alternatives (.zeroOrMore body) []
  | more {body word words} :
      Derives alternatives body word → Derives alternatives (.zeroOrMore body) words →
      Derives alternatives (.zeroOrMore body) (word ++ words)
  | oneOrMore {body word words} :
      Derives alternatives body word → Derives alternatives (.zeroOrMore body) words →
      Derives alternatives (.oneOrMore body) (word ++ words)
  | absent {body} : Derives alternatives (.optional body) []
  | present {body word} :
      Derives alternatives body word → Derives alternatives (.optional body) word
  | group {body label word} :
      Derives alternatives body word → Derives alternatives (.group body label) word

namespace Clause

variable {K : Type} {alternatives : String → List (List (Clause K))} {empty : String → Bool}
  {clause : Clause K} {word : List K}

/-- A clause with an empty word can match nothing. -/
theorem nullable_of_derives_nil
    (closed : ∀ name, ∀ clauses ∈ alternatives name, nullableAll empty clauses = true →
      empty name = true)
    (derives : Derives alternatives clause word) (nothing : word = []) :
    clause.nullable empty = true := by
  induction derives with
  | terminal => cases nothing
  | rule member _ ih => exact closed _ _ member (ih nothing)
  | nil => rfl
  | cons _ _ ih ih' =>
    obtain ⟨first, others⟩ := List.append_eq_nil_iff.mp nothing
    simp only [nullable, nullableAll, Bool.and_eq_true]
    exact ⟨ih first, ih' others⟩
  | choice member _ ih => exact nullableAny_iff.mpr ⟨_, member, ih nothing⟩
  | stop => rfl
  | more => rfl
  | oneOrMore _ _ ih _ => exact ih (List.append_eq_nil_iff.mp nothing).1
  | absent => rfl
  | present => rfl
  | group _ ih => exact ih nothing

/-- Where a word of the clause is followed by another one, a first part that is empty leaves the
head of both to the second part. -/
theorem head_of_derives_append
    (closed : ∀ name, ∀ clauses ∈ alternatives name, nullableAll empty clauses = true →
      empty name = true)
    (derives : Derives alternatives clause word) {second others : List K} {kind : K}
    (eq : word ++ second = kind :: others) :
    (∃ behind, word = kind :: behind) ∨
      clause.nullable empty = true ∧ second = kind :: others := by
  cases word with
  | nil => exact Or.inr ⟨nullable_of_derives_nil closed derives rfl, eq⟩
  | cons head behind =>
    cases eq
    exact Or.inl ⟨behind, rfl⟩

/-- A word begins with a kind that its clause can begin with. -/
theorem begins_of_derives_cons
    (closed : ∀ name, ∀ clauses ∈ alternatives name, nullableAll empty clauses = true →
      empty name = true)
    (derives : Derives alternatives clause word) {kind : K} {others : List K}
    (starts : word = kind :: others) : Begins alternatives empty clause kind := by
  induction derives generalizing others with
  | terminal => cases starts; exact .terminal _
  | rule member _ ih => exact .rule member (ih starts)
  | nil => cases starts
  | cons first _ ih ih' =>
    rcases head_of_derives_append closed first starts with ⟨behind, eq⟩ | ⟨nothing, eq⟩
    · exact .here (ih eq)
    · exact .behind nothing (ih' eq)
  | choice member _ ih => exact .choice member (ih starts)
  | stop => cases starts
  | more first _ ih ih' =>
    rcases head_of_derives_append closed first starts with ⟨behind, eq⟩ | ⟨-, eq⟩
    · exact .zeroOrMore (ih eq)
    · -- The first round is empty, so the kind begins a later one.
      exact ih' eq
  | oneOrMore first _ ih ih' =>
    rcases head_of_derives_append closed first starts with ⟨behind, eq⟩ | ⟨-, eq⟩
    · exact .oneOrMore (ih eq)
    · exact .oneOrMore (Begins.zeroOrMore_iff.mp (ih' eq))
  | absent => cases starts
  | present _ ih => exact .optional (ih starts)
  | group _ ih => exact .group (ih starts)

end Clause

end Lookahead
