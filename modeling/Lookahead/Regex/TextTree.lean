import Lookahead.Regex.Layout

/-!
# Texts that share their starts

If all alternatives of an expression are texts, the machine reads what several texts start with only
once. The texts are gathered in a tree, whose places become states.
-/

namespace Lookahead

namespace Layout

/-- A place in texts that are read as bytes, with the ways on from it. Each time that a text turns
out to end here, the ways on are closed, and those that are found later are kept apart from them, so
that the order of the texts is not lost: `closed` are the ways of each time, the last one in front,
and `ways` those that were found since. -/
inductive TextTree where
  | node (closed : List (List (Nat × TextTree))) (ways : List (Nat × TextTree))

/-- The place without a way on. -/
def TextTree.leaf : TextTree := .node [] []

/-- The place with a text that is complete there. -/
def TextTree.complete : TextTree → TextTree
  | .node closed ways =>
    if ways.isEmpty && !closed.isEmpty && closed.all (·.isEmpty) then .node closed ways
    else .node (ways :: closed) []

/-- Changes what a byte leads to. -/
def changeWay (byte : Nat) (change : TextTree → TextTree) :
    List (Nat × TextTree) → List (Nat × TextTree)
  | [] => [(byte, change .leaf)]
  | (other, tree) :: rest =>
    if other = byte then (other, change tree) :: rest
    else (other, tree) :: changeWay byte change rest

/-- Adds a text. -/
def TextTree.insert : List Nat → TextTree → TextTree
  | [], tree => tree.complete
  | byte :: rest, .node closed ways =>
    .node closed (changeWay byte (insert rest) ways)

/-- Whether no way leads on. -/
def TextTree.isLeaf : TextTree → Bool
  | .node closed ways => ways.isEmpty && closed.all (·.isEmpty)

/-- Adds the state that reads a byte on the ways. -/
def addWayReader (ways : List (Nat × TextTree)) (layout : Layout) : Option Layout :=
  match ways with
  | [] => some layout
  | [_] => (addStates 1 layout).bind (addWays 1)
  | ways => (addReader ways.length layout).bind (addWays 1)

mutual

/-- Adds states that read a text from a place on which is not a leaf: one that branches, and one for
the ways of each time. The branching state also leads to the end of the text between times. -/
def addTree : TextTree → Layout → Option Layout
  | .node closed ways, layout =>
    match addTimes closed layout with
    | none => none
    | some layout =>
      match addChildren ways layout with
      | none => none
      | some layout =>
        match addWayReader ways layout with
        | none => none
        | some layout => (addStates 1 layout).bind (addWays closed.length)

/-- Adds states for the ways of some times. -/
def addTimes : List (List (Nat × TextTree)) → Layout → Option Layout
  | [], layout => some layout
  | ways :: rest, layout =>
    match addChildren ways layout with
    | none => none
    | some layout =>
      match addWayReader ways layout with
      | none => none
      | some layout => addTimes rest layout

/-- Adds states for what the ways lead to. -/
def addChildren : List (Nat × TextTree) → Layout → Option Layout
  | [], layout => some layout
  | (_, tree) :: rest, layout =>
    if tree.isLeaf then addChildren rest layout
    else
      match addTree tree layout with
      | none => none
      | some layout => addChildren rest layout

end

/-- Adds states that read one of the texts. -/
def addTexts (backwards : Bool) (texts : List (List Char)) (layout : Layout) : Option Layout :=
  let texts := texts.map fun text => text.flatMap fun c => Encoding.bytes c.toNat
  let tree := texts.foldl
    (fun tree text => tree.insert (if backwards then text.reverse else text)) TextTree.leaf
  (addStates 1 layout).bind (addTree tree)

end Layout

end Lookahead
