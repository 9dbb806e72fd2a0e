import Lookahead.Proofs.Parser.Determinacy
import Lookahead.Proofs.Parser.DerivationTree

/-!
# Soundness of the parser

Whatever the parser accepts is a word of the start rule, and the tree that it gives is a derivation
tree for it. The tokens at the leaves of the tree, read from left to right, are the tokens that
were read: none is lost, doubled or moved.

Main statement: `Grammar.parseTokens_sound`.
-/

namespace Lookahead

namespace Grammar

variable {K V C : Type} [TokenKind K] {grammar : Grammar K V C}

/-! ### Trees of matches -/

omit [TokenKind K] in
/-- A group has the leaves of its body, whether the body is taken apart or not. -/
theorem leavesAll_groupChildren (body : Clause K) (tree : Tree K V) :
    Tree.leavesAll (groupChildren body tree) = tree.leaves := by
  unfold groupChildren
  split
  next => rfl
  next => simp [Tree.leavesAll]

/-- The tree of a match is a derivation tree for the clause. -/
theorem Matches.conforms {caller : String} {clause : Clause K} {tokens rest : List (Token K)}
    {context after : C} {tree : Tree K V}
    (matched : Matches grammar caller clause tokens context tree rest after) :
    tree.Conforms grammar.alternatives clause := by
  induction matched with
  | terminal => exact .leaf _
  | rule found chosen _ ih =>
    obtain ⟨-, rfl⟩ := rule?_eq_some found
    refine .node ?_ ih
    rw [alternatives_of_some found, List.getElem?_map, Rule.choose_eq_some chosen]
    rfl
  | nil => exact .nil
  | cons _ _ ih ih' => exact .cons ih ih'
  | choice picked _ ih => exact .choice (mem_of_pick picked) ih
  | stop => exact .stop
  | more _ _ _ _ ih ih' => exact .more ih ih'
  | idle _ _ _ ih => exact .more ih .stop
  | oneOrMore _ ih =>
    cases ih with
    | more first others => exact .oneOrMore first others
  | once _ _ _ ih => exact .oneOrMore ih .stop
  | absent => exact .absent
  | present _ _ ih => exact .present ih
  | @group _ body label _ _ _ _ tree _ ih =>
    cases body with
    | sequence items =>
      -- The items of the sequence become the children of the group.
      obtain ⟨children, rfl, -⟩ := Tree.conforms_sequence_iff.mp ih
      exact .spliced ih
    | _ => exact .group rfl ih

/-- The leaves of the tree of a match are the tokens that were read. -/
theorem Matches.leaves_append {caller : String} {clause : Clause K} {tokens rest : List (Token K)}
    {context after : C} {tree : Tree K V}
    (matched : Matches grammar caller clause tokens context tree rest after) :
    tree.leaves ++ rest = tokens := by
  induction matched with
  | terminal => rfl
  | rule _ _ _ ih => exact ih
  | nil => rfl
  | cons _ _ ih ih' =>
    simp only [Tree.leaves, Tree.leavesAll, List.append_assoc] at ih' ⊢
    rw [ih', ih]
  | choice _ _ ih => exact ih
  | stop => rfl
  | more _ _ _ _ ih ih' =>
    simp only [Tree.leaves, Tree.leavesAll, List.append_assoc] at ih' ⊢
    rw [ih', ih]
  | idle _ _ _ ih => simpa [Tree.leaves, Tree.leavesAll] using ih
  | oneOrMore _ ih => exact ih
  | once _ _ _ ih => simpa [Tree.leaves, Tree.leavesAll] using ih
  | absent => rfl
  | present _ _ ih => exact ih
  | group _ ih => rwa [Tree.leaves, leavesAll_groupChildren]

/-! ### What is accepted -/

/-- A parse without an error is a match of the start rule. -/
theorem matches_of_isError_eq_false {tokens : List (Token K)} {start : String} {context : C}
    (success : (grammar.parseTokens tokens start context).1.isError = false) :
    ∃ root rest after, Matches grammar start (.rule start) tokens context root rest after ∧
      grammar.parseTokens tokens start context =
        (⟨some root, [], tokens.length - rest.length, rest.isEmpty⟩, after) := by
  cases found : grammar.rule? start with
  | none =>
    rw [parseTokens_of_none found] at success
    cases success
  | some rule =>
    have explained := run_explained grammar (grammar.nestingBound tokens)
      ⟨start, .rule start, tokens, context⟩
    rw [parseTokens_of_some found] at success ⊢
    cases answer : grammar.run (grammar.nestingBound tokens)
        ⟨start, .rule start, tokens, context⟩ with
    | stopped cause rest after =>
      rw [answer] at success
      cases success
    | matched root rest after =>
      rw [answer] at explained
      exact ⟨root, rest, after, explained, rfl⟩

/-- If a parse succeeds, its tree is a derivation tree of the start rule whose leaves are the
tokens up to the ending position, and their kinds are a word of the start rule. -/
theorem parseTokens_sound (tokens : List (Token K)) (start : String) (context : C)
    (success : (grammar.parseTokens tokens start context).1.isError = false) :
    let result := (grammar.parseTokens tokens start context).1
    result.endingPosition ≤ tokens.length ∧
    (result.isEnded = true ↔ result.endingPosition = tokens.length) ∧
    Clause.Derives grammar.alternatives (.rule start)
      ((tokens.take result.endingPosition).map (·.kind)) ∧
    ∃ root, result.root = some root ∧ root.Conforms grammar.alternatives (.rule start) ∧
      root.leaves = tokens.take result.endingPosition := by
  obtain ⟨root, rest, after, matched, eq⟩ := matches_of_isError_eq_false success
  have read := matched.leaves_append
  have leaves : root.leaves = tokens.take (tokens.length - rest.length) := by
    simp [← read]
  rw [eq]
  refine ⟨Nat.sub_le _ _, ?_, ?_, root, rfl, matched.conforms, leaves⟩
  · have bounded := matched.suffix.length_le
    simp only [List.isEmpty_iff, ← List.length_eq_zero_iff]
    omega
  · rw [← leaves]
    exact matched.conforms.derives

/-- The list `[word,]` is accepted, so it is a word of the rule for lists. -/
theorem parseTokens_sound_list :
    let tokens := Sample.tokens [.opening, .word, .comma, .closing]
    (Sample.grammar.parseTokens tokens "list" ()).1.isError = false ∧
      Clause.Derives Sample.grammar.alternatives (.rule "list") (tokens.map (·.kind)) :=
  ⟨rfl, (parseTokens_sound (Sample.tokens [.opening, .word, .comma, .closing]) "list" ()
    rfl).2.2.1⟩

end Grammar

end Lookahead
