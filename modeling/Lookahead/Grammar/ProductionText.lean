import Lookahead.Grammar.Production
import Lookahead.Text.WhiteSpace

/-!
# Productions written as text

A production can be written as text, such as `list : item (Comma item)*`:

* production: a name, a colon, and items
* item: an atom, perhaps followed by `*`, `+` or `?`
* atom: a name; items in parentheses, perhaps with a name and a colon in front; or branches
  between brackets, each of them items, with bars between them

A name that is a token kind stands for a token of that kind, every other name for a rule.
Parentheses make a sequence, with a name in front a labelled group, and brackets a choice. The
text is cut into symbols first, and the symbols are read from left to right.
-/

namespace Lookahead

namespace ProductionText

/-! ### Symbols -/

/-- A piece of production text. -/
inductive Symbol where
  | name (text : String)
  /-- A single character that is neither white space nor a part of a name. -/
  | mark (c : Char)
  deriving DecidableEq, Repr

/-- The symbol as it stands in the text. -/
def Symbol.text : Symbol → String
  | .name text => text
  | .mark c => String.singleton c

/-- A symbol with the byte at which it starts. -/
abbrev Located := Symbol × Nat

/-- Whether a name can start with `c`. -/
def startsName (c : Char) : Bool :=
  ('A' ≤ c && c ≤ 'Z') || ('a' ≤ c && c ≤ 'z') || c = '_'

/-- Whether a name can go on with `c`. -/
def continuesName (c : Char) : Bool := startsName c || ('0' ≤ c && c ≤ '9')

/-- The name that ends at byte `offset`, if one is open there. Names have one byte for each
character. -/
def closeName (name : List Char) (offset : Nat) : List Located :=
  if name.isEmpty then [] else [(.name (String.ofList name), offset - name.length)]

/-- The symbols of the text from byte `offset` on, where the name `name` is still open. -/
def scanFrom (name : List Char) (offset : Nat) : List Char → List Located
  | [] => closeName name offset
  | c :: rest =>
    if !name.isEmpty && continuesName c then
      scanFrom (name ++ [c]) (offset + c.utf8Size) rest
    else
      closeName name offset ++
        if startsName c then scanFrom [c] (offset + c.utf8Size) rest
        else if Text.isWhiteSpace c then scanFrom [] (offset + c.utf8Size) rest
        else (.mark c, offset) :: scanFrom [] (offset + c.utf8Size) rest

/-- The symbols of a text. -/
def scan (text : List Char) : List Located := scanFrom [] 0 text

/-! ### Errors -/

/-- What could have come next. -/
inductive Wanted where
  | ruleName
  | mark (c : Char)
  | atom
  | groupBody
  deriving DecidableEq, Repr

/-- What could have come next, in words. -/
def Wanted.text : Wanted → String
  | .ruleName => "a rule name"
  | .mark c => "`" ++ String.singleton c ++ "`"
  | .atom => "a name, `(` or `[`"
  | .groupBody => "`(` after a group label"

/-- Why a text is not a production. -/
inductive ReadError where
  /-- The rule has the name of a token kind. -/
  | kindAsRule (name : String)
  /-- Another symbol stands in the place of the one wanted, or the text ended. -/
  | unexpected (wanted : Wanted) (found : Option Located)
  deriving DecidableEq, Repr

/-- The message of the error. -/
def ReadError.describe : ReadError → String
  | .kindAsRule name => "`" ++ name ++ "` is a token kind and cannot name a rule"
  | .unexpected wanted (some (symbol, offset)) =>
    "expected " ++ wanted.text ++ " but found `" ++ symbol.text ++ "` at offset " ++
      toString offset
  | .unexpected wanted none => "expected " ++ wanted.text ++ " but the text ended"

/-! ### Reading

Each reader takes the symbols that are left and gives what it read with the symbols behind it. -/

/-- The error at the first of `symbols`. -/
def unexpected {α : Type} (wanted : Wanted) (symbols : List Located) : Except ReadError α :=
  .error (.unexpected wanted symbols.head?)

/-- Passes over the mark `c`, which must be the first symbol. -/
def expectMark (c : Char) (symbols : List Located) : Except ReadError (List Located) :=
  match symbols with
  | (.mark found, _) :: rest =>
    if found = c then .ok rest else unexpected (.mark c) symbols
  | _ => unexpected (.mark c) symbols

variable {K : Type}

/-- The clause that a name stands for; `kind?` tells the token kind of that name. -/
def nameClause (kind? : String → Option K) (name : String) : Clause K :=
  match kind? name with
  | some kind => .terminal kind
  | none => .rule name

/-- A branch of a choice: one item stands for itself, any other number for a sequence. -/
def branchClause : List (Clause K) → Clause K
  | [clause] => clause
  | clauses => .sequence clauses

/-- A reader of items. -/
abbrev ItemsReader (K : Type) := List Located → Except ReadError (List (Clause K) × List Located)

/-- Reads the branches of a choice up to the closing bracket, `inner` reading items. Every
branch but the first takes a bar, which bounds their number. -/
def readBranches (inner : ItemsReader K) : Nat → ItemsReader K
  | 0, symbols => unexpected (.mark ']') symbols
  | bound + 1, symbols => do
    let (items, rest) ← inner symbols
    match rest with
    | (.mark '|', _) :: others =>
      let (branches, rest) ← readBranches inner bound others
      return (branchClause items :: branches, rest)
    | _ =>
      let rest ← expectMark ']' rest
      return ([branchClause items], rest)

/-- Reads items up to the closing parenthesis. -/
def readParenthesised (inner : ItemsReader K) (symbols : List Located) :
    Except ReadError (Clause K × List Located) := do
  let (items, rest) ← inner symbols
  let rest ← expectMark ')' rest
  return (.sequence items, rest)

/-- Reads an atom, `inner` reading the items inside it. -/
def readAtom (kind? : String → Option K) (inner : ItemsReader K) (symbols : List Located) :
    Except ReadError (Clause K × List Located) :=
  match symbols with
  | (.name label, _) :: (.mark ':', _) :: rest =>
    -- A colon makes the name a label, and a label needs a group behind it.
    match rest with
    | (.mark '(', _) :: body => do
      let (items, rest) ← readParenthesised inner body
      return (.group items (some label), rest)
    | _ => unexpected .groupBody rest
  | (.name name, _) :: rest => .ok (nameClause kind? name, rest)
  | (.mark '(', _) :: rest => readParenthesised inner rest
  | (.mark '[', _) :: rest => do
    let (branches, rest) ← readBranches inner (rest.length + 1) rest
    return (.choice branches, rest)
  | _ => unexpected .atom symbols

/-- Reads an atom and the sign of repetition behind it. -/
def readItem (kind? : String → Option K) (inner : ItemsReader K) (symbols : List Located) :
    Except ReadError (Clause K × List Located) := do
  let (atom, rest) ← readAtom kind? inner symbols
  match rest with
  | (.mark '*', _) :: rest => return (.zeroOrMore atom, rest)
  | (.mark '+', _) :: rest => return (.oneOrMore atom, rest)
  | (.mark '?', _) :: rest => return (.optional atom, rest)
  | _ => return (atom, rest)

/-- Whether an item can start with the first of `symbols`. -/
def startsItem : List Located → Bool
  | (.name _, _) :: _ => true
  | (.mark '(', _) :: _ => true
  | (.mark '[', _) :: _ => true
  | _ => false

/-- Reads items as long as one can start. An item takes a symbol, which bounds their number and
their depth. -/
def readItems (kind? : String → Option K) : Nat → ItemsReader K
  | 0, symbols => .ok ([], symbols)
  | bound + 1, symbols =>
    if startsItem symbols then do
      let (item, rest) ← readItem kind? (readItems kind? bound) symbols
      let (items, rest) ← readItems kind? bound rest
      return (item :: items, rest)
    else .ok ([], symbols)

/-- Reads a production from its symbols. -/
def readSymbols (kind? : String → Option K) (symbols : List Located) :
    Except ReadError (Production K) :=
  match symbols with
  | (.name name, _) :: rest =>
    if (kind? name).isSome then .error (.kindAsRule name)
    else do
      let rest ← expectMark ':' rest
      let (clauses, rest) ← readItems kind? rest.length rest
      match rest with
      | [] => return ⟨name, clauses⟩
      | symbol :: _ => .error (.unexpected .atom (some symbol))
  | _ => .error (.unexpected .ruleName symbols.head?)

/-- Reads a production from text. -/
def read (kind? : String → Option K) (text : List Char) : Except ReadError (Production K) :=
  readSymbols kind? (scan text)

end ProductionText

end Lookahead
