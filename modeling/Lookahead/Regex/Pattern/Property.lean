import Lookahead.Regex.AsciiSet
import Lookahead.Regex.Basic
import Lookahead.Regex.CaseFolding
import Lookahead.Regex.Pattern.State
import Lookahead.Unicode.Property

/-!
# Properties in patterns

A property of characters is named by one letter, or in braces by its name or by a property and a
value of it. A sign stands between the property and the value: two of the three signs mean the same,
and the one for inequality means that too.
-/

namespace Lookahead

namespace Pattern

/-! ### Sets under flags -/

/-- The set closed under case, if the flags say so. Without Unicode only the letters of ASCII
have a case. -/
def folded (flags : Flags) (set : CharSet) : CharSet :=
  if !flags.ignoreCase then set
  else if flags.unicode then set.anyCase
  else set.union ((set.inter .ascii).anyCase.inter .ascii)

/-- The set, or the complement of it if it is `negated`. Without Unicode there is no complement,
since it could hold a part of a character. -/
def negatedIf (flags : Flags) (negated : Bool) (set : CharSet) : Option CharSet :=
  if !negated then some set
  else if flags.unicode then some set.complement
  else none

/-! ### Names -/

/-- What is in front of the first place where `sign` stands, and what is behind it. -/
def splitAtSign (sign : List Char) : List Char → Option (List Char × List Char)
  | [] => none
  | c :: rest =>
    if sign.isPrefixOf (c :: rest) then some ([], (c :: rest).drop sign.length)
    else (splitAtSign sign rest).map fun (front, back) => (c :: front, back)

/-- The characters with the property that is named in braces. -/
def setOfProperty? (name : List Char) : Option CharSet :=
  match splitAtSign ['!', '='] name <|> splitAtSign [':'] name <|> splitAtSign ['='] name with
  | some (property, value) => Unicode.ofValue? property value
  | none => Unicode.ofName? name

/-- Reads a name up to a closing brace, where `name` was read, the last character in front. -/
def readPropertyName (name : List Char) : Nat → State → Option (List Char × State)
  | 0, _ => none
  | bound + 1, state =>
    match state.text with
    | [] => none
    | '\x7d' :: rest => some (name.reverse, { state with text := rest })
    | c :: rest => readPropertyName (c :: name) bound (state.at rest)

/-- Reads the property that stands behind its letter, and gives the characters that have it, or
those that do not if it is `negated`. -/
def readProperty (negated : Bool) (state : State) : Option (CharSet × State) :=
  let inside := state.at state.text
  let found :=
    match inside.text with
    | '\x7b' :: rest =>
      match readPropertyName [] (rest.length + 1) (inside.at rest) with
      | some (name, behind) => (setOfProperty? name).map (·, behind)
      | none => none
    | '\\' :: _ => none
    | c :: rest => (Unicode.ofName? [c]).map (·, { inside with text := rest })
    | [] => none
  match found with
  | some (set, behind) =>
    if state.flags.unicode then
      (negatedIf state.flags negated (folded state.flags set)).map (·, behind)
    else none
  | none => none

end Pattern

end Lookahead
