import Lookahead.Proofs.Parser.Actions
import Lookahead.Proofs.Parser.Soundness
import Lookahead.Proofs.Parser.Termination

/-!
# Matches with other tokens behind them

A match looks one token beyond what it reads, and only to see that this token does not begin what
could still come. So the tokens behind it can be exchanged for others that begin alike, or be taken
away: in front of the end of the tokens nothing begins either, and every decision that was made
without reading comes out the same. The context can be exchanged too, as no decision depends on it.

Main statements: `Grammar.Matches.replay` (the tree of the second match has the same shape) and
`Grammar.Matches.exchange` (with the same context it is the same tree).
-/

namespace Lookahead

namespace Tree

variable {K V : Type}

/-- Taking the body of a group apart does not depend on the values. -/
theorem shapes_groupChildren (body : Clause K) (tree : Tree K V) :
    shapes (Grammar.groupChildren body tree) = Grammar.groupChildren body tree.shape := by
  cases body with
  | sequence items => cases tree <;> rfl
  | _ => rfl

theorem shape_groupChildren_congr {body : Clause K} {tree other : Tree K V}
    (same : other.shape = tree.shape) :
    shapes (Grammar.groupChildren body other) = shapes (Grammar.groupChildren body tree) := by
  rw [shapes_groupChildren, shapes_groupChildren, same]

end Tree

namespace Grammar

variable {K V C : Type} [TokenKind K] {grammar : Grammar K V C}

/-! ### Tokens behind a match -/

omit [TokenKind K] in
/-- Tokens that begin alike do so behind any others. -/
theorem nextKind_append_congr {rest others : List (Token K)}
    (alike : nextKind others = nextKind rest) (front : List (Token K)) :
    nextKind (front ++ others) = nextKind (front ++ rest) := by
  cases front with
  | nil => exact alike
  | cons token front => rfl

/-- The tokens can stand behind a match in the place of others: they begin alike, or there are
none. -/
def Replaces (others rest : List (Token K)) : Prop :=
  others = [] ∨ nextKind others = nextKind rest

omit [TokenKind K] in
theorem Replaces.append {others rest : List (Token K)} (replaces : Replaces others rest)
    (front : List (Token K)) : Replaces (front ++ others) (front ++ rest) := by
  cases front with
  | nil => exact replaces
  | cons token front => exact Or.inr rfl

/-- What does not begin with the next token does not begin with its replacement. -/
theorem Replaces.unread {others rest : List (Token K)} (replaces : Replaces others rest)
    {clause : Clause K} (unread : grammar.starts clause (nextKind rest) = false) :
    grammar.starts clause (nextKind others) = false := by
  rcases replaces with rfl | alike
  · rfl
  · rwa [alike]

/-- In front of what a match reads stands the same kind as before, or there is nothing left and
the match was one that the next token could not begin. -/
theorem Matches.next_cases (coherent : grammar.Coherent) {caller : String} {clause : Clause K}
    {tokens rest : List (Token K)} {context after : C} {tree : Tree K V}
    (matched : Matches grammar caller clause tokens context tree rest after)
    {others : List (Token K)} (replaces : Replaces others rest) :
    nextKind (tree.leaves ++ others) = nextKind tokens ∨
      nextKind (tree.leaves ++ others) = none ∧
        grammar.starts clause (nextKind tokens) = false := by
  have read := matched.leaves_append
  cases leaves : tree.leaves with
  | cons token front =>
    rw [leaves] at read
    exact Or.inl (by rw [← read]; rfl)
  | nil =>
    rw [leaves, List.nil_append] at read
    subst read
    rcases replaces with rfl | alike
    · refine Or.inr ⟨rfl, ?_⟩
      rw [Bool.eq_false_iff]
      intro starts
      exact lt_irrefl _ ((matched.foretold coherent).read starts)
    · exact Or.inl alike

/-- The lookahead of the clause of a match comes out the same. -/
theorem Matches.starts_eq (coherent : grammar.Coherent) {caller : String} {clause : Clause K}
    {tokens rest : List (Token K)} {context after : C} {tree : Tree K V}
    (matched : Matches grammar caller clause tokens context tree rest after)
    {others : List (Token K)} (replaces : Replaces others rest) :
    grammar.starts clause (nextKind (tree.leaves ++ others)) =
      grammar.starts clause (nextKind tokens) := by
  rcases matched.next_cases coherent replaces with same | ⟨ended, unread⟩
  · rw [same]
  · rw [ended, unread]
    rfl

/-- Where nothing in a list begins with the next token, nothing is found there, as at the end. -/
theorem find?_starts_none {T : Type} {items : List T} {clauseOf : T → Clause K} {next : Option K}
    (never : ∀ item ∈ items, grammar.starts (clauseOf item) next = false) :
    items.find? (fun item => grammar.starts (clauseOf item) none) =
      items.find? (fun item => grammar.starts (clauseOf item) next) := by
  have early : items.find? (fun item => grammar.starts (clauseOf item) next) = none :=
    List.find?_eq_none.mpr fun item listed => by simp [never item listed]
  have ended : items.find? (fun item => grammar.starts (clauseOf item) none) = none :=
    List.find?_eq_none.mpr fun _ _ => by simp [starts]
  rw [early, ended]

theorem pick_eq_of_starts_eq_false {members : List (Clause K)} {next : Option K}
    (unread : grammar.starts (.choice members) next = false) :
    grammar.pick members none = grammar.pick members next := by
  have never : ∀ member ∈ members, grammar.starts member next = false := by
    intro member among
    rw [Bool.eq_false_iff]
    intro begins
    rw [starts_choice.mpr ⟨member, among, begins⟩] at unread
    cases unread
  rw [pick, pick, find?_starts_none never]

theorem choose_eq_of_starts_eq_false (coherent : grammar.Coherent) {name : String}
    {rule : Rule K V C} (found : grammar.rule? name = some rule) {next : Option K}
    (unread : grammar.starts (.rule name) next = false) :
    rule.choose none = rule.choose next := by
  have never : ∀ entry ∈ rule.alternatives.zipIdx,
      grammar.starts (.sequence entry.1.clauses) next = false := by
    intro entry listed
    rw [Bool.eq_false_iff]
    intro begins
    have starts := (starts_rule coherent found).mpr
      ⟨entry.1, List.fst_mem_of_mem_zipIdx listed, begins⟩
    rw [unread] at starts
    cases starts
  rw [choose_eq coherent found, choose_eq coherent found, find?_starts_none never]

/-- The same member is picked with other tokens behind the match of a choice. -/
theorem Matches.pick_eq (coherent : grammar.Coherent) {caller : String} {members : List (Clause K)}
    {tokens rest : List (Token K)} {context after : C} {tree : Tree K V}
    (matched : Matches grammar caller (.choice members) tokens context tree rest after)
    {others : List (Token K)} (replaces : Replaces others rest) :
    grammar.pick members (nextKind (tree.leaves ++ others)) =
      grammar.pick members (nextKind tokens) := by
  rcases matched.next_cases coherent replaces with same | ⟨ended, unread⟩
  · rw [same]
  · rw [ended, pick_eq_of_starts_eq_false unread]

/-- The same alternative is taken with other tokens behind the match of a rule. -/
theorem Matches.choose_eq (coherent : grammar.Coherent) {caller name : String} {rule : Rule K V C}
    (found : grammar.rule? name = some rule) {tokens rest : List (Token K)} {context after : C}
    {tree : Tree K V} (matched : Matches grammar caller (.rule name) tokens context tree rest after)
    {others : List (Token K)} (replaces : Replaces others rest) :
    rule.choose (nextKind (tree.leaves ++ others)) = rule.choose (nextKind tokens) := by
  rcases matched.next_cases coherent replaces with same | ⟨ended, unread⟩
  · rw [same]
  · rw [ended, choose_eq_of_starts_eq_false coherent found unread]

/-! ### Replaying a match -/

/-- What a match has read is matched again with any context and with other tokens behind it, and
the tree has the same shape. -/
theorem Matches.replay (coherent : grammar.Coherent) {caller : String} {clause : Clause K}
    {tokens rest : List (Token K)} {context after : C} {tree : Tree K V}
    (matched : Matches grammar caller clause tokens context tree rest after)
    {others : List (Token K)} (replaces : Replaces others rest) (fresh : C) :
    ∃ again later, Matches grammar caller clause (tree.leaves ++ others) fresh again others later ∧
      again.shape = tree.shape := by
  induction matched generalizing others fresh with
  | terminal => exact ⟨_, _, .terminal, rfl⟩
  | @rule caller _ _ _ _ _ _ _ _ _ found chosen children ih =>
    have whole : Matches grammar caller _ _ _ _ _ _ := .rule found chosen children
    obtain ⟨again, later, replayed, same⟩ := ih replaces fresh
    obtain ⟨trees, rfl⟩ := replayed.eq_group
    have decided := whole.choose_eq coherent found replaces
    rw [chosen] at decided
    refine ⟨_, _, .rule found decided replayed, ?_⟩
    rw [Tree.shape, Tree.shape, (Tree.group.inj same).2]
  | nil => exact ⟨_, _, .nil, rfl⟩
  | @cons _ _ _ _ _ _ _ _ _ tree trees first second ih ih' =>
    -- Behind the first item stands what the others have read.
    have behind : Tree.leavesAll trees ++ _ = _ := second.leaves_append
    have edge := replaces.append (Tree.leavesAll trees)
    rw [behind] at edge
    obtain ⟨again, between, replayed, same⟩ := ih edge fresh
    obtain ⟨_, later, replayed', same'⟩ := ih' replaces between
    obtain ⟨trees', rfl⟩ := replayed'.eq_group
    refine ⟨.group none (again :: trees'), later, ?_, ?_⟩
    · rw [Tree.leaves, Tree.leavesAll, List.append_assoc]
      exact .cons replayed replayed'
    · rw [Tree.shape, Tree.shape, Tree.shapes, Tree.shapes, same, (Tree.group.inj same').2]
  | choice picked member ih =>
    have whole := Matches.choice picked member
    obtain ⟨again, later, replayed, same⟩ := ih replaces fresh
    have decided := whole.pick_eq coherent replaces
    rw [picked] at decided
    exact ⟨again, later, .choice decided replayed, same⟩
  | stop ended => exact ⟨_, _, .stop (replaces.unread ended), rfl⟩
  | @more _ _ _ _ _ _ _ _ item items starts round progress loop ih ih' =>
    have behind : Tree.leavesAll items ++ _ = _ := loop.leaves_append
    have edge := replaces.append (Tree.leavesAll items)
    rw [behind] at edge
    have decided := round.starts_eq coherent edge
    rw [starts] at decided
    obtain ⟨again, between, replayed, same⟩ := ih edge fresh
    obtain ⟨_, later, replayed', same'⟩ := ih' replaces between
    obtain ⟨items', rfl⟩ := replayed'.eq_many
    -- The round has read a token before, so it reads one again.
    have bare := round.leaves_append
    have full : item.leaves.length ≠ 0 := by
      intro none
      rw [List.eq_nil_of_length_eq_zero none, List.nil_append] at bare
      exact progress (congrArg List.length bare)
    rw [Tree.leaves, Tree.leavesAll, List.append_assoc]
    refine ⟨.many (again :: items'), later, .more decided replayed ?_ replayed', ?_⟩
    · simp only [List.length_append]
      omega
    · rw [Tree.shape, Tree.shape, Tree.shapes, Tree.shapes, same, Tree.many.inj same']
  | idle starts round unread _ =>
    have shorter := (round.foretold coherent).read starts
    omega
  | oneOrMore loop ih =>
    obtain ⟨_, later, replayed, same⟩ := ih replaces fresh
    obtain ⟨items', rfl⟩ := replayed.eq_many
    cases items' with
    | nil => cases same
    | cons again items' => exact ⟨_, later, .oneOrMore replayed, same⟩
  | once ended nothing only ih =>
    have decided := only.starts_eq coherent replaces
    rw [ended] at decided
    obtain ⟨again, later, replayed, same⟩ := ih replaces fresh
    rw [Tree.leaves, Tree.leavesAll, Tree.leavesAll, List.append_nil]
    refine ⟨.many [again], later, .once decided nothing replayed, ?_⟩
    rw [Tree.shape, Tree.shape, Tree.shapes, Tree.shapes, same]
    rfl
  | absent ended => exact ⟨_, _, .absent (replaces.unread ended), rfl⟩
  | present starts body ih =>
    have decided := body.starts_eq coherent replaces
    rw [starts] at decided
    obtain ⟨again, later, replayed, same⟩ := ih replaces fresh
    exact ⟨again, later, .present decided replayed, same⟩
  | group body ih =>
    obtain ⟨again, later, replayed, same⟩ := ih replaces fresh
    rw [Tree.leaves, leavesAll_groupChildren]
    refine ⟨_, later, .group replayed, ?_⟩
    rw [Tree.shape, Tree.shape, Tree.shape_groupChildren_congr same]

/-- With the same context, and behind it tokens that begin alike or none, a match is the same. -/
theorem Matches.exchange (coherent : grammar.Coherent) {caller : String} {clause : Clause K}
    {tokens rest : List (Token K)} {context after : C} {tree : Tree K V}
    (matched : Matches grammar caller clause tokens context tree rest after)
    {others : List (Token K)} (replaces : Replaces others rest) :
    Matches grammar caller clause (tree.leaves ++ others) context tree others after := by
  obtain ⟨again, later, replayed, same⟩ := matched.replay coherent replaces context
  obtain ⟨rfl, rfl⟩ :=
    matched.performs.unique (respects_eq grammar) replayed.performs same rfl
  exact replayed

end Grammar

end Lookahead
