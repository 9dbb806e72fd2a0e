import Lookahead.Proofs.Parser.Actions
import Lookahead.Proofs.Parser.Correspondence
import Lookahead.Proofs.Parser.Soundness

/-!
# The calls of the actions

Which actions a parse has called can be seen by parsing with actions that write down their calls.
They make the same values and hand on the same contexts, so the parse is the same. If it succeeds,
what was written down are the rule nodes of the tree in postorder: every node has been made by one
call, and there were no others.

Main statement: `Grammar.parseTokens_postorder`.
-/

namespace Lookahead

/-- A call of the action of an alternative: its rule and its number, the children and the context
that it was given, and the value and the context that it gave. -/
structure ActionCall (K V C : Type) where
  rule : String
  number : Nat
  children : List (Tree K V)
  before : C
  value : V
  after : C

/-- The node that is made from the value of the call. -/
def ActionCall.node {K V C : Type} (call : ActionCall K V C) : Tree K V :=
  .node call.rule call.number call.children call.value

namespace Tree

variable {K V : Type}

mutual
/-- The rule nodes of a tree, those inside the children of a node from left to right before the
node. -/
def postorder : Tree K V → List (Tree K V)
  | .leaf _ => []
  | .node rule alternative children value =>
    postorders children ++ [.node rule alternative children value]
  | .absent => []
  | .many items => postorders items
  | .group _ children => postorders children

/-- The rule nodes of several trees, from left to right. -/
def postorders : List (Tree K V) → List (Tree K V)
  | [] => []
  | tree :: rest => postorder tree ++ postorders rest
end

end Tree

section Recording

variable {K V C : Type} [TokenKind K]

/-- The alternative with an action that also writes down its calls. -/
def Alternative.recording (alternative : Alternative K V C) (rule : String) (number : Nat) :
    Alternative K V (C × List (ActionCall K V C)) where
  clauses := alternative.clauses
  first := alternative.first
  mayBeEmpty := alternative.mayBeEmpty
  action := fun children (before, calls) =>
    let (value, after) := alternative.action children before
    (value, after, calls ++ [⟨rule, number, children, before, value, after⟩])

/-- The rule with actions that also write down their calls. -/
def Rule.recording (rule : Rule K V C) : Rule K V (C × List (ActionCall K V C)) where
  name := rule.name
  alternatives := rule.alternatives.mapIdx fun number alternative =>
    alternative.recording rule.name number
  first := rule.first
  mayBeEmpty := rule.mayBeEmpty

/-- The grammar with actions that also write down their calls, behind those written before. -/
def Grammar.recording (grammar : Grammar K V C) : Grammar K V (C × List (ActionCall K V C)) where
  rules := grammar.rules.map Rule.recording

end Recording

namespace Grammar

variable {K V C : Type} [TokenKind K] {grammar : Grammar K V C}

/-! ### Parsing with a record -/

/-- A context corresponds to itself with any calls written down beside it. -/
def besideRecord (K V C : Type) : Correspondence K V V C (C × List (ActionCall K V C)) :=
  .ofContexts K V fun context record => context = record.1

theorem grammars_recording (grammar : Grammar K V C) :
    (besideRecord K V C).Grammars grammar grammar.recording := by
  refine List.forall₂_map_right_iff.mpr (List.forall₂_same.mpr fun rule _ => ⟨rfl, rfl, rfl, ?_⟩)
  refine List.forall₂_iff_get.mpr ⟨by simp [Rule.recording], fun number listed listed' => ?_⟩
  simp only [Rule.recording, List.get_eq_getElem, List.getElem_mapIdx]
  refine ⟨rfl, rfl, rfl, ?_⟩
  rintro children children' context ⟨_, calls⟩ trees rfl
  cases trees.eq
  exact ⟨rfl, rfl⟩

/-- Writing down calls changes nothing else. -/
theorem parseTokens_recording (tokens : List (Token K)) (start : String) (context : C)
    (calls : List (ActionCall K V C)) :
    (grammar.recording.parseTokens tokens start (context, calls)).1 =
        (grammar.parseTokens tokens start context).1 ∧
      (grammar.recording.parseTokens tokens start (context, calls)).2.1 =
        (grammar.parseTokens tokens start context).2 := by
  have alike : List.Forall₂ Eq tokens tokens := List.forall₂_same.mpr fun _ _ => rfl
  have contexts : (besideRecord K V C).contexts context (context, calls) := rfl
  have parsed := Correspondence.results_parseTokens grammar.grammars_recording alike contexts start
  exact ⟨parsed.1.eq.symm, parsed.2.symm⟩

theorem rule?_recording (grammar : Grammar K V C) (name : String) :
    grammar.recording.rule? name = (grammar.rule? name).map Rule.recording := by
  rw [rule?, recording, List.find?_map]
  rfl

/-! ### What is written down -/

/-- The calls are calls of actions of the grammar, the first in the first context and each other in
the context that the one in front of it has left, and the last leaves the last context. -/
inductive Passes (grammar : Grammar K V C) : C → List (ActionCall K V C) → C → Prop
  | nil {context} : Passes grammar context [] context
  | cons (call : ActionCall K V C) {calls after rule alternative} :
      grammar.rule? call.rule = some rule → rule.alternatives[call.number]? = some alternative →
      alternative.action call.children call.before = (call.value, call.after) →
      Passes grammar call.after calls after → Passes grammar call.before (call :: calls) after

theorem Passes.append {context between after : C} {calls others : List (ActionCall K V C)}
    (passes : Passes grammar context calls between) (onward : Passes grammar between others after) :
    Passes grammar context (calls ++ others) after := by
  induction passes with
  | nil => exact onward
  | cons call found numbered called _ ih => exact .cons call found numbered called (ih onward)

theorem Performs.recorded {tree : Tree K V} {before after : C × List (ActionCall K V C)}
    (performs : Performs grammar.recording tree before after) :
    ∃ calls, after.2 = before.2 ++ calls ∧ calls.map ActionCall.node = tree.postorder ∧
      Passes grammar before.1 calls after.1 := by
  induction performs with
  | leaf => exact ⟨[], by simp, rfl, .nil⟩
  | absent => exact ⟨[], by simp, rfl, .nil⟩
  | @node name rule number alternative children before between found numbered _ ih =>
    obtain ⟨calls, written, nodes, passes⟩ := ih
    rw [rule?_recording] at found
    obtain ⟨rule, known, rfl⟩ := Option.map_eq_some_iff.mp found
    rw [Rule.recording, List.getElem?_mapIdx] at numbered
    obtain ⟨alternative, listed, rfl⟩ := Option.map_eq_some_iff.mp numbered
    obtain ⟨-, rfl⟩ := rule?_eq_some known
    -- The call of the node itself is written down behind those for its children.
    let result := alternative.action children between.1
    let call : ActionCall K V C := ⟨rule.name, number, children, between.1, result.1, result.2⟩
    refine ⟨calls ++ [call], ?_, ?_, passes.append (.cons call known listed rfl .nil)⟩
    · rw [← List.append_assoc, ← written]
      rfl
    · rw [List.map_append, nodes]
      rfl
  | nil => exact ⟨[], by simp, rfl, .nil⟩
  | cons _ _ ih ih' =>
    obtain ⟨calls, written, nodes, passes⟩ := ih
    obtain ⟨others, written', nodes', passes'⟩ := ih'
    refine ⟨calls ++ others, ?_, ?_, passes.append passes'⟩
    · rw [written', written, List.append_assoc]
    · rw [List.map_append, nodes, nodes']
      rfl
  | group _ ih => exact ih

/-- If a parse succeeds, the calls that it makes, each in the context that the one before it has
left, are those that make the rule nodes of its tree, in postorder: no node is made twice, and no
call is made for anything else. -/
theorem parseTokens_postorder (tokens : List (Token K)) (start : String) (context : C)
    (success : (grammar.parseTokens tokens start context).1.isError = false) :
    let parsed := grammar.parseTokens tokens start context
    ∃ root calls, parsed.1.root = some root ∧
      grammar.recording.parseTokens tokens start (context, []) = (parsed.1, parsed.2, calls) ∧
      calls.map ActionCall.node = root.postorder ∧ Passes grammar context calls parsed.2 := by
  intro parsed
  obtain ⟨same, behind⟩ := grammar.parseTokens_recording tokens start context []
  -- What was written down is known from the tree of the parse that has done it.
  rw [← same] at success
  obtain ⟨root, rest, after, matched, eq⟩ := matches_of_isError_eq_false success
  obtain ⟨calls, written, nodes, passes⟩ := matched.performs.recorded
  rw [eq] at same behind
  obtain ⟨left, record⟩ := after
  cases written
  cases behind
  refine ⟨root, calls, ?_, ?_, nodes, passes⟩
  · rw [← same]
  · rw [eq, ← same]

/-- Where the context counts the calls and each value is the count so far, the items of `word,word`
are numbered first and the list behind them. -/
theorem parseTokens_postorder_numbered :
    let next : Action Sample.Mark Nat Nat := fun _ count => (count, count + 1)
    let grammar := Resolve.grammar
      [⟨⟨"list", [.rule "item", Sample.others]⟩, next⟩, ⟨⟨"item", [.terminal .word]⟩, next⟩]
    let tokens := Sample.tokens [.word, .comma, .word]
    (grammar.parseTokens tokens "list" 7).1.isError = false ∧
      ∃ root calls, (grammar.parseTokens tokens "list" 7).1.root = some root ∧
        calls.map ActionCall.node = root.postorder ∧ Passes grammar 7 calls 10 ∧
        calls.map (fun call => (call.rule, call.children.length, call.value)) =
          [("item", 1, 7), ("item", 1, 8), ("list", 2, 9)] := by
  intro next grammar tokens
  have success : (grammar.parseTokens tokens "list" 7).1.isError = false := by decide
  obtain ⟨root, calls, made, recorded, nodes, passes⟩ :=
    parseTokens_postorder tokens "list" 7 success
  refine ⟨success, root, calls, made, nodes, passes, ?_⟩
  have written : calls = (grammar.recording.parseTokens tokens "list" (7, [])).2.2 := by
    rw [recorded]
  rw [written]
  rfl

end Grammar

end Lookahead
