import Lookahead.Proofs.Grammar.Language

/-!
# Derivation trees

A syntax tree conforms to a clause if it shows how a word of the clause comes about. The leaves
of a conforming tree, read from left to right, spell a word of the clause.
-/

namespace Lookahead

namespace Tree

variable {K V : Type}

mutual
/-- The tokens at the leaves of a tree, from left to right. -/
def leaves : Tree K V → List (Token K)
  | .leaf token => [token]
  | .node _ _ children _ => leavesAll children
  | .absent => []
  | .many items => leavesAll items
  | .group _ children => leavesAll children

/-- The tokens at the leaves of several trees. -/
def leavesAll : List (Tree K V) → List (Token K)
  | [] => []
  | tree :: rest => leaves tree ++ leavesAll rest
end

/-- The tree is a derivation tree for the clause, where `alternatives` tells what the rules stand
for. The matches of the items of a sequence are the children of a group without a label; a group
around a sequence takes them over, and any other group has the match of its body as its only
child. -/
inductive Conforms (alternatives : String → List (List (Clause K))) : Clause K → Tree K V → Prop
  | leaf (token : Token K) : Conforms alternatives (.terminal token.kind) (.leaf token)
  | node {name number clauses children value} :
      (alternatives name)[number]? = some clauses →
      Conforms alternatives (.sequence clauses) (.group none children) →
      Conforms alternatives (.rule name) (.node name number children value)
  | nil : Conforms alternatives (.sequence []) (.group none [])
  | cons {clause rest tree trees} :
      Conforms alternatives clause tree →
      Conforms alternatives (.sequence rest) (.group none trees) →
      Conforms alternatives (.sequence (clause :: rest)) (.group none (tree :: trees))
  | choice {member members tree} :
      member ∈ members → Conforms alternatives member tree →
      Conforms alternatives (.choice members) tree
  | stop {body} : Conforms alternatives (.zeroOrMore body) (.many [])
  | more {body item items} :
      Conforms alternatives body item → Conforms alternatives (.zeroOrMore body) (.many items) →
      Conforms alternatives (.zeroOrMore body) (.many (item :: items))
  | oneOrMore {body item items} :
      Conforms alternatives body item → Conforms alternatives (.zeroOrMore body) (.many items) →
      Conforms alternatives (.oneOrMore body) (.many (item :: items))
  | absent {body} : Conforms alternatives (.optional body) .absent
  | present {body tree} :
      Conforms alternatives body tree → Conforms alternatives (.optional body) tree
  | group {body label tree} :
      body.isSequence = false → Conforms alternatives body tree →
      Conforms alternatives (.group body label) (.group label [tree])
  | spliced {items label children} :
      Conforms alternatives (.sequence items) (.group none children) →
      Conforms alternatives (.group (.sequence items) label) (.group label children)

variable {alternatives : String → List (List (Clause K))} {clause : Clause K} {tree : Tree K V}

/-- The leaves of a derivation tree spell a word of the clause. -/
theorem Conforms.derives (conforms : Conforms alternatives clause tree) :
    Clause.Derives alternatives clause (tree.leaves.map (·.kind)) := by
  induction conforms with
  | leaf token => exact .terminal token.kind
  | node chosen _ ih => exact .rule (List.mem_of_getElem? chosen) (by simpa [leaves] using ih)
  | nil => exact .nil
  | cons _ _ ih ih' => simpa [leaves, leavesAll] using Clause.Derives.cons ih ih'
  | choice member _ ih => exact .choice member ih
  | stop => exact .stop
  | more _ _ ih ih' => simpa [leaves, leavesAll] using Clause.Derives.more ih ih'
  | oneOrMore _ _ ih ih' => simpa [leaves, leavesAll] using Clause.Derives.oneOrMore ih ih'
  | absent => exact .absent
  | present _ ih => exact .present ih
  | group _ _ ih => exact .group (by simpa [leaves, leavesAll] using ih)
  | spliced _ ih => exact .group (by simpa [leaves] using ih)

/-- The children of a sequence conform to its items, one by one. -/
theorem conforms_sequence_iff {items : List (Clause K)} :
    Conforms alternatives (.sequence items) tree ↔
      ∃ children, tree = .group none children ∧
        List.Forall₂ (Conforms alternatives) items children := by
  constructor
  · intro conforms
    induction items generalizing tree with
    | nil => cases conforms; exact ⟨[], rfl, .nil⟩
    | cons clause rest ih =>
      cases conforms with
      | cons first others =>
        obtain ⟨children, eq, conform⟩ := ih others
        cases eq
        exact ⟨_, rfl, .cons first conform⟩
  · rintro ⟨children, rfl, conform⟩
    induction conform with
    | nil => exact .nil
    | cons first _ ih => exact .cons first ih

end Tree

end Lookahead
