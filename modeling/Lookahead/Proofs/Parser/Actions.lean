import Lookahead.Proofs.Parser.Evaluation

/-!
# What the actions make of a tree

Apart from the values at its rule nodes a tree is decided by the tokens alone. The values come
from the actions, which are performed once for each rule node, those of the children from left to
right before that of the node, each one with the context that the one before it has left. So a tree
and the last context are known from the shape of the tree and the first context.

Main statements: `Grammar.Matches.performs` and `Grammar.Performs.unique`.
-/

namespace Lookahead

namespace Tree

variable {K V : Type}

mutual
/-- The tree without the values of its rule nodes. -/
def shape : Tree K V → Tree K Unit
  | .leaf token => .leaf token
  | .node rule alternative children _ => .node rule alternative (shapes children) ()
  | .absent => .absent
  | .many items => .many (shapes items)
  | .group label children => .group label (shapes children)

/-- The trees without their values. -/
def shapes : List (Tree K V) → List (Tree K Unit)
  | [] => []
  | tree :: rest => shape tree :: shapes rest
end

end Tree

namespace Grammar

variable {K V C : Type} [TokenKind K] {grammar : Grammar K V C}

/-- Performing the actions of the rule nodes of a tree, each one behind those of its children,
takes the first context to the second one and makes the values that stand in the tree. -/
inductive Performs (grammar : Grammar K V C) : Tree K V → C → C → Prop
  | leaf {token context} : Performs grammar (.leaf token) context context
  | absent {context} : Performs grammar .absent context context
  | node {name rule number alternative children context between} :
      grammar.rule? name = some rule → rule.alternatives[number]? = some alternative →
      Performs grammar (.many children) context between →
      Performs grammar (.node name number children (alternative.action children between).1) context
        (alternative.action children between).2
  | nil {context} : Performs grammar (.many []) context context
  | cons {tree trees context between after} :
      Performs grammar tree context between → Performs grammar (.many trees) between after →
      Performs grammar (.many (tree :: trees)) context after
  | group {label children context after} :
      Performs grammar (.many children) context after →
      Performs grammar (.group label children) context after

theorem performs_group_iff {label : Option String} {children : List (Tree K V)}
    {context after : C} :
    Performs grammar (.group label children) context after ↔
      Performs grammar (.many children) context after := by
  constructor
  · intro performs
    cases performs with
    | group children => exact children
  · exact .group

theorem performs_singleton {tree : Tree K V} {context after : C}
    (performs : Performs grammar tree context after) :
    Performs grammar (.many [tree]) context after :=
  .cons performs .nil

/-- A group performs what its body does, whether the body is taken apart or not. -/
theorem Performs.groupChildren {tree : Tree K V} {context after : C}
    (performs : Performs grammar tree context after) (body : Clause K) :
    Performs grammar (.many (groupChildren body tree)) context after := by
  unfold Grammar.groupChildren
  split
  next => exact performs_group_iff.mp performs
  next => exact performs_singleton performs

/-- The values in the tree of a match and the context behind it come from the actions. -/
theorem Matches.performs {caller : String} {clause : Clause K} {tokens rest : List (Token K)}
    {context after : C} {tree : Tree K V}
    (matched : Matches grammar caller clause tokens context tree rest after) :
    Performs grammar tree context after := by
  induction matched with
  | terminal => exact .leaf
  | rule found chosen _ ih =>
    obtain ⟨-, rfl⟩ := rule?_eq_some found
    exact .node found (Rule.choose_eq_some chosen) (performs_group_iff.mp ih)
  | nil => exact .group .nil
  | cons _ _ ih ih' => exact .group (.cons ih (performs_group_iff.mp ih'))
  | choice _ _ ih => exact ih
  | stop => exact .nil
  | more _ _ _ _ ih ih' => exact .cons ih ih'
  | idle _ _ _ ih => exact performs_singleton ih
  | oneOrMore _ ih => exact ih
  | once _ _ _ ih => exact performs_singleton ih
  | absent => exact .absent
  | present _ _ ih => exact ih
  | @group _ body _ _ _ _ _ _ _ ih => exact .group (ih.groupChildren body)

/-! ### Two performances -/

/-- Every action makes the same value in related contexts and leaves related contexts. -/
def Respects (grammar : Grammar K V C) (related : C → C → Prop) : Prop :=
  ∀ rule ∈ grammar.rules, ∀ alternative ∈ rule.alternatives, ∀ children first second,
    related first second →
      (alternative.action children first).1 = (alternative.action children second).1 ∧
      related (alternative.action children first).2 (alternative.action children second).2

theorem respects_eq (grammar : Grammar K V C) : grammar.Respects Eq := by
  rintro rule - alternative - children context _ rfl
  exact ⟨rfl, rfl⟩

/-- No action looks at the context for the value that it makes. -/
def IgnoresContext (grammar : Grammar K V C) : Prop :=
  ∀ rule ∈ grammar.rules, ∀ alternative ∈ rule.alternatives, ∀ children first second,
    (alternative.action children first).1 = (alternative.action children second).1

theorem IgnoresContext.respects (ignores : grammar.IgnoresContext) :
    grammar.Respects fun _ _ => True :=
  fun rule listed alternative member children first second _ =>
    ⟨ignores rule listed alternative member children first second, trivial⟩

/-- Trees of one shape that come from related contexts are the same, and the contexts behind them
are related. -/
theorem Performs.unique {related : C → C → Prop} (respects : grammar.Respects related)
    {tree other : Tree K V} {context after context' after' : C}
    (performs : Performs grammar tree context after)
    (performs' : Performs grammar other context' after') (same : other.shape = tree.shape)
    (start : related context context') : other = tree ∧ related after after' := by
  induction performs generalizing other context' after' with
  | leaf =>
    cases performs' with
    | leaf => cases same; exact ⟨rfl, start⟩
    | _ => cases same
  | absent =>
    cases performs' with
    | absent => exact ⟨rfl, start⟩
    | _ => cases same
  | node found numbered _ ih =>
    cases performs' with
    | node found' numbered' children' =>
      obtain ⟨rfl, rfl, shapes, -⟩ := Tree.node.inj same
      obtain ⟨eq, between⟩ := ih children' (congrArg Tree.many shapes) start
      cases eq
      -- The name and the number tell the action.
      obtain rfl := Option.some.inj (found.symm.trans found')
      obtain rfl := Option.some.inj (numbered.symm.trans numbered')
      obtain ⟨value, behind⟩ := respects _ (rule?_eq_some found).1 _
        (List.mem_of_getElem? numbered) _ _ _ between
      exact ⟨by rw [value], behind⟩
    | _ => cases same
  | nil =>
    cases performs' with
    | nil => exact ⟨rfl, start⟩
    | _ => cases same
  | cons _ _ ih ih' =>
    cases performs' with
    | cons first' others' =>
      obtain ⟨first, others⟩ := List.cons.inj (Tree.many.inj same)
      obtain ⟨rfl, between⟩ := ih first' first start
      obtain ⟨eq, behind⟩ := ih' others' (congrArg Tree.many others) between
      cases eq
      exact ⟨rfl, behind⟩
    | _ => cases same
  | group _ ih =>
    cases performs' with
    | group children' =>
      obtain ⟨rfl, shapes⟩ := Tree.group.inj same
      obtain ⟨eq, behind⟩ := ih children' (congrArg Tree.many shapes) start
      cases eq
      exact ⟨rfl, behind⟩
    | _ => cases same

end Grammar

end Lookahead
