import Lookahead.Proofs.Parser.Replay

/-!
# Every rule node is a parse of its own tokens

The node of a rule comes from a match of the rule, somewhere in the middle of the tokens. Such a
match can be replayed with nothing behind it, so parsing just the tokens that a node covers, from
its rule, succeeds and gives the node back: its shape with any context, and the node itself with
its values if the actions ignore the context. For the root of a parse this says that the tokens
that were not read had no influence on the tree.

Main statement: `Grammar.parseTokens_reproducible`.
-/

namespace Lookahead

namespace Tree

variable {K V : Type}

mutual
/-- The rule nodes in a tree, each with the number of leaves in front of it, where `front` leaves
stand in front of the tree. A node comes in front of those inside it. -/
def nodes (front : Nat) : Tree K V → List (Nat × Tree K V)
  | .leaf _ => []
  | .node rule alternative children value =>
    (front, .node rule alternative children value) :: nodesAll front children
  | .absent => []
  | .many items => nodesAll front items
  | .group _ children => nodesAll front children

/-- The rule nodes in trees that stand one behind the other. -/
def nodesAll (front : Nat) : List (Tree K V) → List (Nat × Tree K V)
  | [] => []
  | tree :: rest => nodes front tree ++ nodesAll (front + tree.leaves.length) rest
end

theorem nodesAll_singleton (front : Nat) (tree : Tree K V) :
    nodesAll front [tree] = nodes front tree := by
  rw [nodesAll, nodesAll, List.append_nil]

/-- A group has the rule nodes of its body, whether the body is taken apart or not. -/
theorem nodesAll_groupChildren (front : Nat) (body : Clause K) (tree : Tree K V) :
    nodesAll front (Grammar.groupChildren body tree) = nodes front tree := by
  unfold Grammar.groupChildren
  split
  next => rfl
  next => exact nodesAll_singleton front tree

end Tree

namespace Grammar

variable {K V C : Type} [TokenKind K] {grammar : Grammar K V C}

/-- The node comes from a match of its rule, so many tokens behind the first one. -/
def ComesFrom (grammar : Grammar K V C) (tokens : List (Token K)) (distance : Nat)
    (node : Tree K V) : Prop :=
  ∃ name caller read behind context after, node.rule? = some name ∧ read.length = distance ∧
    tokens = read ++ (node.leaves ++ behind) ∧
    Matches grammar caller (.rule name) (node.leaves ++ behind) context node behind after

theorem ComesFrom.append {tokens : List (Token K)} {distance : Nat} {node : Tree K V}
    (comes : ComesFrom grammar tokens distance node) (front : List (Token K)) :
    ComesFrom grammar (front ++ tokens) (front.length + distance) node := by
  obtain ⟨name, caller, read, behind, context, after, own, rfl, rfl, matched⟩ := comes
  exact ⟨name, caller, front ++ read, behind, context, after, own, List.length_append,
    by rw [List.append_assoc], matched⟩

/-- Every rule node in the tree of a match comes from a match of its rule. -/
theorem Matches.comesFrom {caller : String} {clause : Clause K} {tokens rest : List (Token K)}
    {context after : C} {tree : Tree K V}
    (matched : Matches grammar caller clause tokens context tree rest after) {front place : Nat}
    {node : Tree K V} (member : (place, node) ∈ tree.nodes front) :
    ∃ distance, place = front + distance ∧ ComesFrom grammar tokens distance node := by
  induction matched generalizing front with
  | terminal | nil | stop | absent => cases member
  | @rule caller _ rule alternative _ _ rest context after children found chosen inside ih =>
    rcases List.mem_cons.mp member with here | deeper
    · -- The node is the one that this match makes.
      cases here
      have whole : Matches grammar caller _ _ _ _ _ _ := .rule found chosen inside
      have read : Tree.leavesAll children ++ rest = _ := inside.leaves_append
      obtain ⟨-, rfl⟩ := rule?_eq_some found
      refine ⟨0, rfl, rule.name, caller, [], rest, context, (alternative.action children after).2,
        rfl, rfl, read.symm, ?_⟩
      rwa [Tree.leaves, read]
    · exact ih deeper
  | cons first _ ih ih' =>
    rcases List.mem_append.mp member with early | late
    · exact ih early
    · obtain ⟨distance, rfl, comes⟩ := ih' late
      refine ⟨_, Nat.add_assoc _ _ _, ?_⟩
      rw [← first.leaves_append]
      exact comes.append _
  | choice _ _ ih | oneOrMore _ ih | present _ _ ih => exact ih member
  | more _ round _ _ ih ih' =>
    rcases List.mem_append.mp member with early | late
    · exact ih early
    · obtain ⟨distance, rfl, comes⟩ := ih' late
      refine ⟨_, Nat.add_assoc _ _ _, ?_⟩
      rw [← round.leaves_append]
      exact comes.append _
  | idle _ _ _ ih | once _ _ _ ih =>
    rw [Tree.nodes, Tree.nodesAll_singleton] at member
    exact ih member
  | group _ ih =>
    rw [Tree.nodes, Tree.nodesAll_groupChildren] at member
    exact ih member

/-- The tokens that a node covers are a parse of their own: parsed from its rule with any context
they give a tree of the same shape, which is the node itself if the actions ignore the context. -/
theorem ComesFrom.reparse (coherent : grammar.Coherent) {tokens : List (Token K)}
    {distance : Nat} {node : Tree K V} (comes : ComesFrom grammar tokens distance node) :
    (tokens.drop distance).take node.leaves.length = node.leaves ∧
    ∃ name, node.rule? = some name ∧ ∀ context, ∃ again,
      (grammar.parseTokens node.leaves name context).1 =
        ⟨some again, [], node.leaves.length, true⟩ ∧
      again.shape = node.shape ∧ (grammar.IgnoresContext → again = node) := by
  obtain ⟨name, caller, read, behind, first, after, own, rfl, rfl, matched⟩ := comes
  refine ⟨by simp, name, own, fun context => ?_⟩
  obtain ⟨again, later, replayed, same⟩ := matched.replay coherent (Or.inl rfl) context
  rw [List.append_nil] at replayed
  refine ⟨again, ?_, same, fun ignores => ?_⟩
  · rw [replayed.parseTokens_eq coherent]
    rfl
  · exact (matched.performs.unique ignores.respects replayed.performs same trivial).1

/-- If a parse succeeds, whether or not it covers all tokens, then every rule node of its tree, the
root among them, is reproducible: parsing the tokens that the node covers from the rule of the node
succeeds, covers them all and gives a tree of the same shape, and the same values too if the
actions ignore the context. The root covers what was read. -/
theorem parseTokens_reproducible (resolved : grammar.Resolved) (tokens : List (Token K))
    (start : String) (context : C)
    (success : (grammar.parseTokens tokens start context).1.isError = false) :
    let result := (grammar.parseTokens tokens start context).1
    ∃ root, result.root = some root ∧ root.rule? = some start ∧ (0, root) ∈ root.nodes 0 ∧
      root.leaves.length = result.endingPosition ∧
      ∀ place node, (place, node) ∈ root.nodes 0 → ∃ name, node.rule? = some name ∧
        let covered := (tokens.drop place).take node.leaves.length
        covered = node.leaves ∧
        ∀ context, ∃ again,
          (grammar.parseTokens covered name context).1 = ⟨some again, [], covered.length, true⟩ ∧
          again.shape = node.shape ∧ (grammar.IgnoresContext → again = node) := by
  have coherent := resolved.coherent
  obtain ⟨root, rest, after, matched, eq⟩ := matches_of_isError_eq_false success
  have read := congrArg List.length matched.leaves_append
  rw [List.length_append] at read
  rw [eq]
  refine ⟨root, rfl, ?_, ?_, ?_, fun place node member => ?_⟩
  · cases matched with
    | rule found => exact congrArg some (rule?_eq_some found).2
  · cases matched with
    | rule => exact List.mem_cons_self
  · dsimp only
    omega
  · obtain ⟨distance, rfl, comes⟩ := matched.comesFrom member
    rw [Nat.zero_add]
    obtain ⟨covered, name, own, reparsed⟩ := comes.reparse coherent
    refine ⟨name, own, covered, fun context => ?_⟩
    rw [covered]
    exact reparsed context

/-- In `[word,]word` the list inside the brackets stands behind one token and covers two of them.
They parse to the same list, though a bracket stood behind them. -/
theorem parseTokens_reproducible_list :
    let tokens := Sample.tokens [.opening, .word, .comma, .closing, .word]
    let inner := Sample.tokens [.word, .comma]
    let word : Tree Sample.Mark Nat := .node "item" 0 [.leaf ⟨.word, [], .start⟩] 1
    let comma : Tree Sample.Mark Nat :=
      .group none [.leaf ⟨.comma, [], .start⟩, .node "item" 2 [] 0]
    let node : Tree Sample.Mark Nat := .node "list" 0 [word, .many [comma]] 2
    Sample.grammar.Resolved ∧ Sample.grammar.IgnoresContext ∧
      (Sample.grammar.parseTokens tokens "list" ()).1.isError = false ∧
      (∃ root, (Sample.grammar.parseTokens tokens "list" ()).1.root = some root ∧
        (1, node) ∈ root.nodes 0) ∧
      (Sample.grammar.parseTokens inner "list" ()).1 = ⟨some node, [], 2, true⟩ := by
  intro tokens inner word comma node
  have ignores : Sample.grammar.IgnoresContext := by
    rintro rule - alternative - children ⟨⟩ ⟨⟩
    rfl
  obtain ⟨root, found, -, -, -, reproducible⟩ :=
    parseTokens_reproducible Sample.resolved tokens "list" () rfl
  have member : (1, node) ∈ root.nodes 0 := by
    cases found
    exact .tail _ (.tail _ (.head _))
  obtain ⟨name, own, covered, reparsed⟩ := reproducible 1 node member
  cases own
  obtain ⟨again, parsed, -, same⟩ := reparsed ()
  obtain rfl := same ignores
  exact ⟨Sample.resolved, ignores, rfl, ⟨root, found, member⟩, parsed⟩

end Grammar

end Lookahead
