import Lookahead.Regex.AsciiSet
import Lookahead.Regex.Basic
import Lookahead.Regex.TextTree
import Lookahead.Text.Basic

/-!
# The size of regular expressions

A regular expression is laid out as two machines, one that reads a text forwards and keeps track of
groups, and one that reads it backwards and does not. The expression is of moderate size if neither
takes more memory than machines can take.

A part of a machine ends with a state from which the next part goes on. If that state branches, the
next part is one more way on from it.
-/

namespace Lookahead

namespace Layout

/-! ### Parts of a machine -/

/-- A machine as far as it is laid out, and whether its last part ends with a state that
branches. -/
structure Part where
  layout : Layout
  branches : Bool

/-- Lets the part go on to what was added behind it. -/
def addNext (branches : Bool) (layout : Layout) : Option Layout :=
  if branches then addWays 1 layout else some layout

/-- Adds a part `count` times in a row, behind `previous` if there is a part in front. -/
def addCopies (add : Layout → Option Part) :
    Nat → Option Bool → Layout → Option (Layout × Option Bool)
  | 0, previous, layout => some (layout, previous)
  | count + 1, previous, layout =>
    match add layout with
    | none => none
    | some part =>
      match addNext (previous.getD false) part.layout with
      | none => none
      | some layout => addCopies add count (some part.branches) layout

/-- Adds a part `count` times in a row; none at all is a state. -/
def addRow (add : Layout → Option Part) (count : Nat) (layout : Layout) : Option Part :=
  match addCopies add count none layout with
  | none => none
  | some (layout, some branches) => some ⟨layout, branches⟩
  | some (layout, none) => (addStates 1 layout).map (⟨·, false⟩)

/-- Adds a part `count` times in a row, such that each of them can be left out with all behind
it. -/
def addOptions (add : Layout → Option Part) : Nat → Bool → Layout → Option Layout
  | 0, branches, layout => addNext branches layout
  | count + 1, branches, layout =>
    match ((addStates 1 layout).bind (addWays 2)).bind (addNext branches) with
    | none => none
    | some layout =>
      match add layout with
      | none => none
      | some part => addOptions add count part.branches part.layout

/-- Adds a part that can be left out. -/
def addOption (add : Layout → Option Part) (layout : Layout) : Option Part :=
  match ((addStates 1 layout).bind (addWays 2)).bind add with
  | none => none
  | some part =>
    ((addStates 1 part.layout).bind (addNext part.branches)).map (⟨·, false⟩)

/-- Adds the part and then a state that goes back to it and on. -/
def addLoop (add : Layout → Option Part) (layout : Layout) : Option Part :=
  match add layout with
  | none => none
  | some part =>
    (((addStates 1 part.layout).bind (addWays 1)).bind (addNext part.branches)).map (⟨·, true⟩)

/-- Adds a part any number of times. If the part can be passed over without a character, the loop
around it can be left out as a whole. -/
def addAny (takesChar : Bool) (add : Layout → Option Part) (layout : Layout) : Option Part :=
  if takesChar then
    match ((addStates 1 layout).bind (addWays 1)).bind add with
    | none => none
    | some part => (addNext part.branches part.layout).map (⟨·, true⟩)
  else
    match addLoop add layout with
    | none => none
    | some part => ((addStates 2 part.layout).bind (addWays 3)).map (⟨·, false⟩)

/-- Adds a part at least `low` and at most `high` times. -/
def addRepeated (takesChar : Bool) (add : Layout → Option Part) (low : Nat) (high : Option Nat)
    (layout : Layout) : Option Part :=
  match low, high with
  | 0, some 1 => addOption add layout
  | 0, none => addAny takesChar add layout
  | 1, none => addLoop add layout
  | low, none =>
    match addCopies add (low - 1) none layout with
    | none => none
    | some (layout, previous) =>
      match addLoop add layout with
      | none => none
      | some part =>
        (addNext (previous.getD false) part.layout).map (⟨·, part.branches⟩)
  | low, some high =>
    match addRow add low layout with
    | none => none
    | some part =>
      if high ≤ low then some part
      else
        ((addStates 1 part.layout).bind (addOptions add (high - low) part.branches)).map
          (⟨·, false⟩)

end Layout

namespace Regex

/-- The text of an expression that is one. -/
def text? : Regex → Option (List Char)
  | .literal text => some text
  | _ => none

mutual

/-- Adds a part that matches the expression. -/
def addTo (backwards : Bool) : Regex → Layout → Option Layout.Part
  | .empty, layout => (layout.addStates 1).map (⟨·, false⟩)
  | .literal text, layout => (layout.addStates (Text.byteLength text)).map (⟨·, false⟩)
  | .oneOf set, layout => (layout.addSet backwards set.isAscii set).map (⟨·, false⟩)
  | .check _, layout => (layout.addStates 1).map (⟨·, false⟩)
  | .captured _ body, layout =>
    if backwards then addTo backwards body layout
    else
      match (layout.addStates 1).bind (addTo backwards body ·) with
      | none => none
      | some part =>
        ((part.layout.addStates 1).bind (Layout.addNext part.branches)).map (⟨·, false⟩)
  | .repeated body low high _, layout =>
    Layout.addRepeated body.takesChar (addTo backwards body ·) low high layout
  | .concat items, layout =>
    if backwards then addBackwards items layout else addForwards items none layout
  | .alternatives items, layout =>
    match items.mapM text? with
    | some texts => (layout.addTexts backwards texts).map (⟨·, false⟩)
    | none => (addAlternatives backwards items 1 layout).map (⟨·, false⟩)

/-- Adds parts that match the expressions one after the other, behind `previous` if there is a part
in front. -/
def addForwards : List Regex → Option Bool → Layout → Option Layout.Part
  | [], previous, layout => some ⟨layout, previous.getD false⟩
  | item :: rest, previous, layout =>
    match addTo false item layout with
    | none => none
    | some part =>
      match Layout.addNext (previous.getD false) part.layout with
      | none => none
      | some layout => addForwards rest (some part.branches) layout

/-- Adds parts that match the expressions one after the other, the last one first. -/
def addBackwards : List Regex → Layout → Option Layout.Part
  | [], layout => some ⟨layout, false⟩
  | item :: rest, layout =>
    match addBackwards rest layout with
    | none => none
    | some previous =>
      match addTo true item previous.layout with
      | none => none
      | some part =>
        (Layout.addNext previous.branches part.layout).map (⟨·, part.branches⟩)

/-- Adds parts that match one of the expressions each. Behind the second one come the state that
branches and the one in which all end. -/
def addAlternatives (backwards : Bool) : List Regex → Nat → Layout → Option Layout
  | [], _, layout => some layout
  | item :: rest, number, layout =>
    match addTo backwards item layout with
    | none => none
    | some part =>
      let ends :=
        if number = 2 then part.layout.addStates 2 else some part.layout
      match (ends.bind (Layout.addWays 1)).bind (Layout.addNext part.branches) with
      | none => none
      | some layout => addAlternatives backwards rest (number + 1) layout

end

/-- The machine that finds the expression in a text. Unless a match can only be at the start, it
passes over any bytes first. Groups are kept track of, the whole match being one, and a last state
says that there is a match. -/
def machine (backwards : Bool) (regex : Regex) : Option Layout :=
  let anchored := if backwards then regex.isEndAnchored else regex.isAnchored
  let start : Layout := {}
  let start :=
    if anchored then start.addStates 1
    else ((start.addStates 2).bind (Layout.addReader 1)).bind (Layout.addWays 2)
  let whole := if backwards then regex else .captured 0 regex
  match start.bind (whole.addTo backwards) with
  | none => none
  | some part => (part.layout.addStates 1).bind (Layout.addNext part.branches)

/-- Whether the machines of the expression are within the limit. -/
def isModerate (regex : Regex) : Bool :=
  (regex.machine false).isSome && (regex.machine true).isSome

end Regex

end Lookahead
