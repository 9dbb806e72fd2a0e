import Lookahead.Text.Basic
import Lookahead.Token

/-!
# Syntax trees

What the parser makes of a list of tokens. The value of a node was computed from its children
when the node was made; replacing a child later leaves the value as it is.
-/

namespace Lookahead

/-- A syntax tree over kinds `K` whose rule nodes carry values of type `V`. -/
inductive Tree (K V : Type) where
  /-- A token that was matched. -/
  | leaf (token : Token K)
  /-- A match of an alternative of a rule, counted from zero in the order of declaration. -/
  | node (rule : String) (alternative : Nat) (children : List (Tree K V)) (value : V)
  /-- An optional clause that matched nothing. -/
  | absent
  /-- The matches of a repeated clause. -/
  | many (items : List (Tree K V))
  /-- The matches of a sequence or of a group, with the label of the group. -/
  | group (label : Option String) (children : List (Tree K V))
  deriving Repr

namespace Tree

variable {K V : Type}

/-! ### Parts of a tree -/

/-- The token of a leaf. -/
def token? : Tree K V → Option (Token K)
  | .leaf token => some token
  | _ => none

/-- The text of a leaf. -/
def text? (tree : Tree K V) : Option (List Char) := tree.token?.map (·.text)

/-- The value of a rule node. -/
def value? : Tree K V → Option V
  | .node _ _ _ value => some value
  | _ => none

/-- The rule of a rule node. -/
def rule? : Tree K V → Option String
  | .node rule _ _ _ => some rule
  | _ => none

/-- The children of a rule node; other trees have none. -/
def children : Tree K V → List (Tree K V)
  | .node _ _ children _ => children
  | _ => []

/-- Whether the tree stands for an optional clause that matched nothing. -/
def isAbsent : Tree K V → Bool
  | .absent => true
  | _ => false

/-- The items of a repetition or the children of a group; other trees have none. -/
def items : Tree K V → List (Tree K V)
  | .many items => items
  | .group _ children => children
  | _ => []

/-- The label of a group. -/
def label? : Tree K V → Option String
  | .group label _ => label
  | _ => none

/-- The rule node with the child at `index` replaced, if it is a rule node with such a child. -/
def withChild? (tree : Tree K V) (index : Nat) (child : Tree K V) : Option (Tree K V) :=
  match tree with
  | .node rule alternative children value =>
    if index < children.length then
      some (.node rule alternative (children.set index child) value)
    else none
  | _ => none

/-! ### The outline of a tree -/

variable [TokenKind K]

/-- A line of an outline, indented by two spaces for each level. -/
def indented (depth : Nat) (text : String) : String :=
  String.ofList (List.replicate (2 * depth) ' ') ++ text

mutual
/-- The lines of the outline of a tree that stands at `depth`. -/
def outline (depth : Nat) : Tree K V → List String
  | .leaf token => [indented depth (toString token)]
  | .node rule alternative children _ =>
    indented depth (rule ++ "#" ++ toString alternative) :: outlines (depth + 1) children
  | .absent => [indented depth "<absent>"]
  | .many items => indented depth "*" :: outlines (depth + 1) items
  | .group label children =>
    indented depth ("(" ++ label.getD "" ++ ")") :: outlines (depth + 1) children

/-- The lines of the outlines of trees that stand at `depth`. -/
def outlines (depth : Nat) : List (Tree K V) → List String
  | [] => []
  | tree :: rest => outline depth tree ++ outlines depth rest
end

/-- The outline of a tree: one line for each node, the children under their parent. -/
def dump (tree : Tree K V) : String := Text.joinLines (tree.outline 0)

end Tree

end Lookahead
