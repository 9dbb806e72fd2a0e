import Lookahead.Proofs.Text.Lines
import Lookahead.Tree

/-!
# Outlines tell trees apart

An outline has a line for each node of a tree, and what a line is about can be read off it: how deep
the node is, by the blanks in front, and what the node is, by what follows them. The nodes below a
node are those of the deeper lines that come right behind its line, so the outline tells the whole
tree, except for the values and the positions, of which it says nothing.

For this the lines have to be told apart. Kinds and rules are written as identifiers, kinds by
identifiers of their own, a label is not empty, and nothing that is written has a line feed in it.

Main statement: `Tree.dump_eq_iff`.
-/

namespace Lookahead

namespace Text

/-! ### Identifiers -/

/-- A character that can stand in an identifier. Beyond ASCII every character is let in, whatever
the rules for other scripts may be. -/
def InIdentifier (c : Char) : Prop := c.isAlphanum ∨ c = '_' ∨ 128 ≤ c.toNat

/-- The text is an identifier: it is not empty, its characters can stand in an identifier, and the
first one is no digit. -/
def IsIdentifier (text : String) : Prop :=
  ∃ c rest, text.toList = c :: rest ∧ ¬ c.isDigit ∧ ∀ d ∈ c :: rest, InIdentifier d

theorem IsIdentifier.inIdentifier {text : String} (identifier : IsIdentifier text) :
    ∀ c ∈ text.toList, InIdentifier c := by
  obtain ⟨first, rest, shape, -, all⟩ := identifier
  rwa [shape]

/-! ### Joined lines -/

/-- Lines that are joined can be told apart again if there is one and no line feed is in them. -/
theorem joinLines_inj {lines lines' : List String} (some_line : lines ≠ [])
    (some_line' : lines' ≠ []) (free : ∀ line ∈ lines, '\n' ∉ line.toList)
    (free' : ∀ line ∈ lines', '\n' ∉ line.toList) (same : joinLines lines = joinLines lines') :
    lines = lines' := by
  have joined := congrArg String.toList same
  rw [joinLines, joinLines, String.toList_intercalate, String.toList_intercalate] at joined
  have split := congrArg (List.splitOn '\n') joined
  have cut := List.splitOn_intercalate '\n' (List.forall_mem_map.mpr free)
    (by simpa using some_line)
  have cut' := List.splitOn_intercalate '\n' (List.forall_mem_map.mpr free')
    (by simpa using some_line')
  have lists : lines.map String.toList = lines'.map String.toList :=
    cut.symm.trans (split.trans cut')
  exact (List.map_inj_right fun _ _ => String.toList_inj.mp).mp lists

end Text

/-- The kinds are written as identifiers, each by an identifier of its own. -/
structure TokenKind.Identified (K : Type) [TokenKind K] : Prop where
  identifier : ∀ kind : K, Text.IsIdentifier (TokenKind.label kind)
  distinct : ∀ kind kind' : K, TokenKind.label kind = TokenKind.label kind' → kind = kind'

namespace Tree

open Text (InIdentifier IsIdentifier)

variable {K V W : Type}

/-! ### Trees without values and positions -/

mutual
/-- The tree without the values of its rule nodes and the positions of its tokens. -/
def bare : Tree K V → Tree K Unit
  | .leaf token => .leaf ⟨token.kind, token.text, .start⟩
  | .node rule alternative children _ => .node rule alternative (bareAll children) ()
  | .absent => .absent
  | .many items => .many (bareAll items)
  | .group label children => .group label (bareAll children)

/-- The trees without their values and positions. -/
def bareAll : List (Tree K V) → List (Tree K Unit)
  | [] => []
  | tree :: rest => bare tree :: bareAll rest
end

/-! ### Nodes by themselves -/

/-- What a node is, without what is below it. -/
inductive Heading (K : Type) where
  | leaf (kind : K) (text : List Char)
  | node (rule : String) (alternative : Nat)
  | absent
  | many
  | group (label : Option String)

/-- What the root of the tree is. -/
def heading : Tree K V → Heading K
  | .leaf token => .leaf token.kind token.text
  | .node rule alternative _ _ => .node rule alternative
  | .absent => .absent
  | .many _ => .many
  | .group label _ => .group label

/-- The trees right below the root. -/
def parts : Tree K V → List (Tree K V)
  | .leaf _ => []
  | .node _ _ children _ => children
  | .absent => []
  | .many items => items
  | .group _ children => children

/-- What holds of a tree whenever it holds of the trees right below its root holds of every tree. -/
theorem parts_induction {motive : Tree K V → Prop}
    (step : ∀ tree, (∀ part ∈ tree.parts, motive part) → motive tree) (tree : Tree K V) :
    motive tree :=
  @Tree.rec K V motive (fun trees => ∀ tree ∈ trees, motive tree)
    (fun token => step (.leaf token) nofun)
    (fun rule alternative children value each => step (.node rule alternative children value) each)
    (step .absent nofun) (fun items each => step (.many items) each)
    (fun label children each => step (.group label children) each) nofun
    (fun _ _ first others => List.forall_mem_cons.mpr ⟨first, others⟩) tree

/-- A tree without values and positions is made of its root and of what is below it. -/
theorem bare_eq_iff {tree : Tree K V} {other : Tree K W} :
    tree.bare = other.bare ↔
      tree.heading = other.heading ∧ bareAll tree.parts = bareAll other.parts := by
  cases tree <;> cases other <;> simp [bare, bareAll, heading, parts, and_assoc]

/-! ### What is written can be read -/

/-- What is written of the node leaves no doubt: a rule is an identifier, a label is not empty, and
no line feed is in a label or a token. -/
def Heading.Legible : Heading K → Prop
  | .leaf _ text => '\n' ∉ text
  | .node rule _ => IsIdentifier rule
  | .absent => True
  | .many => True
  | .group label => ∀ name ∈ label, name ≠ "" ∧ '\n' ∉ name.toList

/-- What is written of the nodes of the tree leaves no doubt. -/
inductive Legible : Tree K V → Prop
  | of_parts {tree} : tree.heading.Legible → (∀ part ∈ tree.parts, Legible part) → Legible tree

theorem Legible.heading {tree : Tree K V} (legible : tree.Legible) : tree.heading.Legible := by
  cases legible with
  | of_parts heading => exact heading

theorem Legible.parts {tree : Tree K V} (legible : tree.Legible) :
    ∀ part ∈ tree.parts, part.Legible := by
  cases legible with
  | of_parts _ parts => exact parts

variable [TokenKind K]

/-! ### Lines of an outline -/

/-- The line about a node, without the blanks in front. -/
def Heading.line : Heading K → String
  | .leaf kind text => TokenKind.label kind ++ ":" ++ String.ofList text
  | .node rule alternative => rule ++ "#" ++ toString alternative
  | .absent => "<absent>"
  | .many => "*"
  | .group label => "(" ++ label.getD "" ++ ")"

/-- The outline begins with the root, and what is below it is one level deeper. -/
theorem outline_eq (depth : Nat) (tree : Tree K V) :
    tree.outline depth = indented depth tree.heading.line :: outlines (depth + 1) tree.parts := by
  cases tree <;> rfl

/-! ### Lines tell nodes apart -/

namespace Heading

/-- The identifier at the start of the line, if there is one. -/
def name : Heading K → String
  | .leaf kind _ => TokenKind.label kind
  | .node rule _ => rule
  | _ => ""

/-- The first character of the line that is in no identifier. It tells what the node is. -/
def mark : Heading K → Char
  | .leaf _ _ => ':'
  | .node _ _ => '#'
  | .absent => '<'
  | .many => '*'
  | .group _ => '('

/-- What stands behind the mark. -/
def detail : Heading K → String
  | .leaf _ text => String.ofList text
  | .node _ alternative => toString alternative
  | .absent => "absent>"
  | .many => ""
  | .group label => label.getD "" ++ ")"

theorem toList_line (heading : Heading K) :
    heading.line.toList = heading.name.toList ++ heading.mark :: heading.detail.toList := by
  cases heading <;> simp [line, name, mark, detail]

omit [TokenKind K] in
theorem not_inIdentifier_mark (heading : Heading K) : ¬ InIdentifier heading.mark := by
  cases heading <;> simp [mark, InIdentifier]

/-- A label that is not empty is told from no label. -/
theorem label_eq_of_getD_eq {label label' : Option String} (full : ∀ name ∈ label, name ≠ "")
    (full' : ∀ name ∈ label', name ≠ "") (same : label.getD "" = label'.getD "") :
    label = label' := by
  cases label with
  | none =>
    cases label' with
    | none => rfl
    | some name' => exact absurd same.symm (full' name' rfl)
  | some name =>
    cases label' with
    | none => exact absurd same (full name rfl)
    | some name' => exact congrArg some same

/-- A number is told by its decimal numeral. -/
theorem eq_of_repr_eq {number number' : Nat} (same : number.repr = number'.repr) :
    number = number' := by
  rw [Nat.repr_eq_ofList_toDigits, Nat.repr_eq_ofList_toDigits, String.ofList_inj] at same
  calc number
    _ = Nat.ofDigitChars 10 (Nat.toDigits 10 number) 0 := Nat.ofDigitChars_ten_toDigits.symm
    _ = Nat.ofDigitChars 10 (Nat.toDigits 10 number') 0 := by rw [same]
    _ = number' := Nat.ofDigitChars_ten_toDigits

variable {heading heading' : Heading K}

theorem inIdentifier_of_mem_name (kinds : TokenKind.Identified K) (legible : heading.Legible) :
    ∀ c ∈ heading.name.toList, InIdentifier c := by
  cases heading with
  | leaf kind text => exact (kinds.identifier kind).inIdentifier
  | node rule alternative => exact legible.inIdentifier
  | _ => exact nofun

/-- The line of a node tells all of the node. -/
theorem eq_of_line_eq (kinds : TokenKind.Identified K) (legible : heading.Legible)
    (legible' : heading'.Legible) (same : heading.line = heading'.line) : heading = heading' := by
  have lists := congrArg String.toList same
  rw [toList_line, toList_line] at lists
  -- The marks are the first characters outside of identifiers, so both lines are cut at them.
  obtain ⟨names, marks, details⟩ := Text.cut_unique InIdentifier
    (inIdentifier_of_mem_name kinds legible) (inIdentifier_of_mem_name kinds legible')
    heading.not_inIdentifier_mark heading'.not_inIdentifier_mark lists
  rw [String.toList_inj] at names details
  cases heading with
  | leaf kind text =>
    cases heading' with
    | leaf kind' text' =>
      rw [kinds.distinct kind kind' names, String.ofList_inj.mp details]
    | _ => simp [mark] at marks
  | node rule alternative =>
    cases heading' with
    | node rule' alternative' =>
      obtain rfl : rule = rule' := names
      rw [eq_of_repr_eq details]
    | _ => simp [mark] at marks
  | absent =>
    cases heading' with
    | absent => rfl
    | _ => simp [mark] at marks
  | many =>
    cases heading' with
    | many => rfl
    | _ => simp [mark] at marks
  | group label =>
    cases heading' with
    | group label' =>
      have labels : label.getD "" = label'.getD "" := (String.append_left_inj _).mp details
      rw [label_eq_of_getD_eq (fun name known => (legible name known).1)
        (fun name known => (legible' name known).1) labels]
    | _ => simp [mark] at marks

/-- The blanks in front of a line end with the line. -/
theorem exists_line_eq_cons (kinds : TokenKind.Identified K) (legible : heading.Legible) :
    ∃ c rest, heading.line.toList = c :: rest ∧ c ≠ ' ' := by
  rw [toList_line]
  cases letters : heading.name.toList with
  | nil =>
    -- Where there is no identifier, the line begins with its mark.
    refine ⟨heading.mark, _, rfl, ?_⟩
    cases heading <;> simp [mark]
  | cons c rest =>
    refine ⟨c, _, rfl, ?_⟩
    rintro rfl
    have inside := inIdentifier_of_mem_name kinds legible ' ' (by simp [letters])
    simp [InIdentifier] at inside

theorem newline_not_mem_line (kinds : TokenKind.Identified K) (legible : heading.Legible) :
    '\n' ∉ heading.line.toList := by
  rw [toList_line, List.mem_append, List.mem_cons]
  rintro (inName | isMark | inDetail)
  · have inside := inIdentifier_of_mem_name kinds legible '\n' inName
    simp [InIdentifier] at inside
  · cases heading <;> simp [mark] at isMark
  · cases heading with
    | leaf kind text => exact legible (by simpa [detail] using inDetail)
    | node rule alternative =>
      have digit := Nat.isDigit_of_mem_toDigits (by decide) (by decide)
        (Nat.toList_repr ▸ inDetail : '\n' ∈ Nat.toDigits 10 alternative)
      simp at digit
    | absent => simp [detail] at inDetail
    | many => simp [detail] at inDetail
    | group label =>
      cases label with
      | none => simp [detail] at inDetail
      | some name => exact (legible name rfl).2 (by simpa [detail] using inDetail)

end Heading

theorem toList_indented (depth : Nat) (text : String) :
    (indented depth text).toList = List.replicate (2 * depth) ' ' ++ text.toList := by
  simp [indented]

/-- A line of an outline tells the node and how deep it is. -/
theorem indented_inj (kinds : TokenKind.Identified K) {heading heading' : Heading K}
    (legible : heading.Legible) (legible' : heading'.Legible) {depth depth' : Nat}
    (same : indented depth heading.line = indented depth' heading'.line) :
    depth = depth' ∧ heading = heading' := by
  obtain ⟨c, rest, shape, dark⟩ := heading.exists_line_eq_cons kinds legible
  obtain ⟨c', rest', shape', dark'⟩ := heading'.exists_line_eq_cons kinds legible'
  have lists := congrArg String.toList same
  rw [toList_indented, toList_indented, shape, shape'] at lists
  obtain ⟨blanks, rfl, rfl⟩ := Text.cut_unique (· = ' ') (fun _ => List.eq_of_mem_replicate)
    (fun _ => List.eq_of_mem_replicate) dark dark' lists
  have lengths := congrArg List.length blanks
  rw [List.length_replicate, List.length_replicate] at lengths
  exact ⟨by omega, Heading.eq_of_line_eq kinds legible legible'
    (String.toList_injective (shape.trans shape'.symm))⟩

/-! ### Outlines tell trees apart -/

/-- The next line is about a node less deep than `depth`, or there is none. -/
def Outdented (K : Type) [TokenKind K] (depth : Nat) (lines : List String) : Prop :=
  ∀ line ∈ lines.head?, ∃ level < depth, ∃ heading : Heading K,
    heading.Legible ∧ line = indented level heading.line

/-- The outline of the tree at the start of some lines tells the tree, apart from values and
positions, and where it ends. -/
def Told (W : Type) (tree : Tree K V) : Prop :=
  ∀ ⦃depth : Nat⦄ ⦃other : Tree K W⦄ ⦃rest rest' : List String⦄, other.Legible →
    Outdented K (depth + 1) rest → Outdented K (depth + 1) rest' →
    tree.outline depth ++ rest = other.outline depth ++ rest' →
    tree.bare = other.bare ∧ rest = rest'

/-- Behind the outline of a tree stands that of the next one, or what is less deep. -/
theorem outdented_outlines {depth : Nat} {trees : List (Tree K V)} {rest : List String}
    (legible : ∀ tree ∈ trees, tree.Legible) (outdented : Outdented K depth rest) :
    Outdented K (depth + 1) (outlines depth trees ++ rest) := by
  intro line next
  cases trees with
  | nil =>
    obtain ⟨level, less, told⟩ := outdented line next
    exact ⟨level, by omega, told⟩
  | cons tree trees =>
    rw [outlines, outline_eq] at next
    obtain rfl := Option.some.inj next
    have first := legible tree List.mem_cons_self
    exact ⟨depth, Nat.lt_succ_self depth, tree.heading, first.heading, rfl⟩

/-- A line about a node at `depth` is not less deep. -/
theorem Outdented.ne_outline (kinds : TokenKind.Identified K) {depth : Nat} {lines : List String}
    (outdented : Outdented K depth lines) {tree : Tree K V} (legible : tree.Legible)
    (rest : List String) : lines ≠ tree.outline depth ++ rest := by
  rintro rfl
  rw [outline_eq] at outdented
  obtain ⟨level, less, heading, known, same⟩ := outdented _ rfl
  obtain ⟨rfl, -⟩ := indented_inj kinds legible.heading known same
  exact lt_irrefl _ less

theorem bareAll_eq_of_outlines (kinds : TokenKind.Identified K) {depth : Nat}
    {trees : List (Tree K V)} {others : List (Tree K W)} {rest rest' : List String}
    (told : ∀ tree ∈ trees, Told W tree) (legible : ∀ tree ∈ trees, tree.Legible)
    (legible' : ∀ other ∈ others, other.Legible) (outdented : Outdented K depth rest)
    (outdented' : Outdented K depth rest')
    (same : outlines depth trees ++ rest = outlines depth others ++ rest') :
    bareAll trees = bareAll others ∧ rest = rest' := by
  induction trees generalizing others with
  | nil =>
    cases others with
    | nil => exact ⟨rfl, same⟩
    | cons other others =>
      -- The other tree would have its line where only less deep ones can follow.
      rw [outlines, outlines, List.append_assoc] at same
      exact absurd same (outdented.ne_outline kinds (legible' other List.mem_cons_self) _)
  | cons tree trees ih =>
    cases others with
    | nil =>
      rw [outlines, outlines, List.append_assoc] at same
      exact absurd same.symm (outdented'.ne_outline kinds (legible tree List.mem_cons_self) _)
    | cons other others =>
      obtain ⟨first, later⟩ := List.forall_mem_cons.mp legible
      obtain ⟨first', later'⟩ := List.forall_mem_cons.mp legible'
      rw [outlines, outlines, List.append_assoc, List.append_assoc] at same
      obtain ⟨bare, behind⟩ := told tree List.mem_cons_self first'
        (outdented_outlines later outdented) (outdented_outlines later' outdented') same
      obtain ⟨bares, ends⟩ := ih (List.forall_mem_cons.mp told).2 later later' behind
      rw [bareAll, bareAll, bare, bares]
      exact ⟨rfl, ends⟩

/-- The outline of a tree that can be read tells it, at any depth and with any less deep lines
behind it. -/
theorem told (kinds : TokenKind.Identified K) (tree : Tree K V) :
    tree.Legible → Told W tree := by
  induction tree using parts_induction with
  | step tree ih =>
    intro legible depth other rest rest' legible' outdented outdented' same
    rw [outline_eq, outline_eq] at same
    obtain ⟨first, below⟩ := List.cons.inj same
    -- What is not deeper than the root is less deep than what is below it.
    obtain ⟨-, headings⟩ := indented_inj kinds legible.heading legible'.heading first
    obtain ⟨bares, ends⟩ := bareAll_eq_of_outlines kinds
      (fun part member => ih part member (legible.parts part member)) legible.parts legible'.parts
      outdented outdented' below
    exact ⟨bare_eq_iff.mpr ⟨headings, bares⟩, ends⟩

/-! ### The text of an outline -/

theorem mem_outlines {depth : Nat} {trees : List (Tree K V)} {line : String} :
    line ∈ outlines depth trees ↔ ∃ tree ∈ trees, line ∈ tree.outline depth := by
  induction trees with
  | nil => simp [outlines]
  | cons tree trees ih => simp [outlines, ih]

theorem newline_not_mem_outline (kinds : TokenKind.Identified K) (tree : Tree K V) :
    tree.Legible → ∀ depth, ∀ line ∈ tree.outline depth, '\n' ∉ line.toList := by
  induction tree using parts_induction with
  | step tree ih =>
    intro legible depth line member
    rw [outline_eq, List.mem_cons, mem_outlines] at member
    rcases member with rfl | ⟨part, below, member⟩
    · have free := Heading.newline_not_mem_line kinds legible.heading
      simp [toList_indented, free]
    · exact ih part below (legible.parts part below) _ line member

mutual
theorem outline_bare (depth : Nat) :
    (tree : Tree K V) → tree.bare.outline depth = tree.outline depth
  | .leaf _ => rfl
  | .node _ _ children _ => by rw [bare, outline, outline, outlines_bareAll]
  | .absent => rfl
  | .many items => by rw [bare, outline, outline, outlines_bareAll]
  | .group _ children => by rw [bare, outline, outline, outlines_bareAll]

theorem outlines_bareAll (depth : Nat) :
    (trees : List (Tree K V)) → outlines depth (bareAll trees) = outlines depth trees
  | [] => rfl
  | tree :: rest => by rw [bareAll, outlines, outlines, outline_bare, outlines_bareAll]
end

/-- Trees that can be read have the same dump exactly if they are the same up to the values of their
rule nodes and the positions of their tokens. -/
theorem dump_eq_iff (kinds : TokenKind.Identified K) {tree : Tree K V} {other : Tree K W}
    (legible : tree.Legible) (legible' : other.Legible) :
    tree.dump = other.dump ↔ tree.bare = other.bare := by
  constructor
  · intro same
    have lines : tree.outline 0 = other.outline 0 := by
      refine Text.joinLines_inj ?_ ?_ (newline_not_mem_outline kinds tree legible 0)
        (newline_not_mem_outline kinds other legible' 0) same
      · rw [outline_eq]
        exact List.cons_ne_nil _ _
      · rw [outline_eq]
        exact List.cons_ne_nil _ _
    -- Behind the outlines of whole trees there are no lines.
    have ended : Outdented K 1 [] := nofun
    exact (told kinds tree legible legible' ended ended (congrArg (· ++ []) lines)).1
  · intro same
    rw [dump, dump, ← outline_bare 0 tree, ← outline_bare 0 other, same]

end Tree

namespace Sample

/-- The kinds of the tokens of a sum. -/
inductive Summand where
  | num
  | plus
  deriving DecidableEq, Ord

instance : Std.TransOrd Summand where
  eq_swap := by
    intro a b
    cases a <;> cases b <;> rfl
  isLE_trans := by
    intro a b c
    cases a <;> cases b <;> cases c <;> decide

instance : Std.LawfulEqOrd Summand where
  compare_self := by
    intro a
    cases a <;> rfl
  eq_of_compare := by
    intro a b
    cases a <;> cases b <;> decide

instance : TokenKind Summand where
  label
    | .num => "Num"
    | .plus => "Plus"

theorem identified_summand : TokenKind.Identified Summand where
  identifier := by
    rintro (_ | _)
    · exact ⟨'N', ['u', 'm'], rfl, by decide, by simp [Text.InIdentifier]⟩
    · exact ⟨'P', ['l', 'u', 's'], rfl, by decide, by simp [Text.InIdentifier]⟩
  distinct := by
    rintro (_ | _) (_ | _) same
    · rfl
    · simp [TokenKind.label] at same
    · simp [TokenKind.label] at same
    · rfl

/-- A sum with the value `value` and its tokens at `position`. One of its texts looks like a line
about a repetition. -/
def sum {V : Type} (value : V) (position : Position) : Tree Summand V :=
  .node "sum" 1 [.leaf ⟨.num, ['1'], position⟩,
    .many [.group (some "tail") [.leaf ⟨.plus, [' ', ' ', '*'], position⟩, .group none []]],
    .absent] value

theorem legible_sum {V : Type} (value : V) (position : Position) :
    (sum value position).Legible := by
  have named : Text.IsIdentifier "sum" :=
    ⟨'s', ['u', 'm'], rfl, by decide, by simp [Text.InIdentifier]⟩
  have label : ∀ name ∈ some "tail", name ≠ "" ∧ '\n' ∉ name.toList := by simp
  have leaf {text : List Char} (free : '\n' ∉ text) (kind : Summand) :
      (.leaf ⟨kind, text, position⟩ : Tree Summand V).Legible := .of_parts free nofun
  have tail : (.group (some "tail") [.leaf ⟨.plus, [' ', ' ', '*'], position⟩, .group none []] :
      Tree Summand V).Legible :=
    .of_parts label (List.forall_mem_cons.mpr
      ⟨leaf (by simp) .plus, List.forall_mem_singleton.mpr (.of_parts nofun nofun)⟩)
  exact .of_parts named (List.forall_mem_cons.mpr
    ⟨leaf (by simp) .num, List.forall_mem_cons.mpr
      ⟨.of_parts trivial (List.forall_mem_singleton.mpr tail),
        List.forall_mem_singleton.mpr (.of_parts trivial nofun)⟩⟩)

end Sample

/-- Where the values and the places differ, the dumps are the same all the same. -/
theorem Tree.dump_eq_iff_sum :
    TokenKind.Identified Sample.Summand ∧ (Sample.sum 3 ⟨0, 1, 1⟩).Legible ∧
      (Sample.sum "three" ⟨9, 2, 4⟩).Legible ∧
      (Sample.sum 3 ⟨0, 1, 1⟩).dump = (Sample.sum "three" ⟨9, 2, 4⟩).dump ∧
      (Sample.sum 3 ⟨0, 1, 1⟩).bare = (Sample.sum "three" ⟨9, 2, 4⟩).bare := by
  have same : (Sample.sum 3 ⟨0, 1, 1⟩).dump = (Sample.sum "three" ⟨9, 2, 4⟩).dump := by
    rfl
  have legible := Sample.legible_sum 3 ⟨0, 1, 1⟩
  have legible' := Sample.legible_sum "three" ⟨9, 2, 4⟩
  exact ⟨Sample.identified_summand, legible, legible', same,
    (dump_eq_iff Sample.identified_summand legible legible').mp same⟩

/-- Every node has its line, under the line of the node that it belongs to. -/
example : (Sample.sum () .start).dump =
    "sum#1\n  Num:1\n  *\n    (tail)\n      Plus:  *\n      ()\n  <absent>" := by
  decide

end Lookahead
