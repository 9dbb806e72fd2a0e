import Lookahead.Grammar.ProductionText

/-!
# The syntax of production text

The symbols of production text follow a grammar of their own: items, each of them an atom with an
optional sign of repetition, and atoms that have items inside them. A derivation shows how symbols
follow this grammar, and it is what tells the clauses that the symbols stand for. Symbols that
follow the grammar do so in one way only, because the next symbol always decides what can come.

Main statement: `ProductionText.Derivation.symbols_injective`.
-/

namespace Lookahead

namespace ProductionText

/-! ### Derivations -/

/-- What the grammar of production text has names for. The branches of a choice go up to its
closing bracket. -/
inductive Part where
  | items
  | item
  | atom
  | branches

/-- A sign behind an atom. -/
inductive Sign where
  | star
  | plus
  | question

namespace Sign

/-- The mark of the sign. -/
def mark : Sign → Char
  | .star => '*'
  | .plus => '+'
  | .question => '?'

/-- What the sign makes of the clause in front of it. -/
def apply {K : Type} : Sign → Clause K → Clause K
  | .star => .zeroOrMore
  | .plus => .oneOrMore
  | .question => .optional

theorem mark_injective {sign other : Sign} (same : sign.mark = other.mark) : sign = other := by
  cases sign <;> cases other <;> first | rfl | cases same

end Sign

/-- A derivation of symbols from the grammar

* items: nothing, or an item and more items
* item: an atom, or an atom and a sign
* atom: a name; a name, a colon and items in parentheses; items in parentheses; or branches
  behind an opening bracket
* branches: items and the closing bracket, or items, a bar and more branches -/
inductive Derivation : Part → Type where
  | nothing : Derivation .items
  | more (item : Derivation .item) (others : Derivation .items) : Derivation .items
  | bare (atom : Derivation .atom) : Derivation .item
  | signed (atom : Derivation .atom) (sign : Sign) : Derivation .item
  | name (text : String) : Derivation .atom
  | labelled (label : String) (items : Derivation .items) : Derivation .atom
  | parenthesised (items : Derivation .items) : Derivation .atom
  | bracketed (branches : Derivation .branches) : Derivation .atom
  | last (items : Derivation .items) : Derivation .branches
  | branch (items : Derivation .items) (others : Derivation .branches) : Derivation .branches

/-- What a part stands for: items for clauses one after the other, branches for the members of a
choice, and an item or an atom for a single clause. -/
abbrev Part.Meaning (K : Type) : Part → Type
  | .items => List (Clause K)
  | .item => Clause K
  | .atom => Clause K
  | .branches => List (Clause K)

namespace Derivation

/-- The symbols that are derived. -/
def symbols {part : Part} : Derivation part → List Symbol
  | .nothing => []
  | .more item others => item.symbols ++ others.symbols
  | .bare atom => atom.symbols
  | .signed atom sign => atom.symbols ++ [.mark sign.mark]
  | .name text => [.name text]
  | .labelled label items => .name label :: .mark ':' :: .mark '(' :: (items.symbols ++ [.mark ')'])
  | .parenthesised items => .mark '(' :: (items.symbols ++ [.mark ')'])
  | .bracketed branches => .mark '[' :: branches.symbols
  | .last items => items.symbols ++ [.mark ']']
  | .branch items others => items.symbols ++ .mark '|' :: others.symbols

/-- The member of a choice that clauses in a row make: a single one is the member itself. -/
def member {K : Type} (clauses : List (Clause K)) : Clause K :=
  match clauses with
  | [clause] => clause
  | _ => .sequence clauses

/-- What the derived symbols stand for, where `kind?` tells the token kind of a name. A name of no
kind is that of a rule. -/
def meaning {K : Type} (kind? : String → Option K) {part : Part} :
    Derivation part → part.Meaning K
  | .nothing => []
  | .more item others => item.meaning kind? :: others.meaning kind?
  | .bare atom => atom.meaning kind?
  | .signed atom sign => sign.apply (atom.meaning kind?)
  | .name text => (kind? text).elim (.rule text) .terminal
  | .labelled label items => .group (.sequence (items.meaning kind?)) (some label)
  | .parenthesised items => .sequence (items.meaning kind?)
  | .bracketed branches => .choice (branches.meaning kind?)
  | .last items => [member (items.meaning kind?)]
  | .branch items others => member (items.meaning kind?) :: others.meaning kind?

@[simp] theorem symbols_nothing : nothing.symbols = [] := rfl

@[simp] theorem symbols_more (item : Derivation .item) (others : Derivation .items) :
    (more item others).symbols = item.symbols ++ others.symbols := rfl

@[simp] theorem symbols_bare (atom : Derivation .atom) : (bare atom).symbols = atom.symbols := rfl

@[simp] theorem symbols_signed (atom : Derivation .atom) (sign : Sign) :
    (signed atom sign).symbols = atom.symbols ++ [.mark sign.mark] := rfl

@[simp] theorem symbols_name (text : String) : (name text).symbols = [.name text] := rfl

@[simp] theorem symbols_labelled (label : String) (items : Derivation .items) :
    (labelled label items).symbols =
      .name label :: .mark ':' :: .mark '(' :: (items.symbols ++ [.mark ')']) := rfl

@[simp] theorem symbols_parenthesised (items : Derivation .items) :
    (parenthesised items).symbols = .mark '(' :: (items.symbols ++ [.mark ')']) := rfl

@[simp] theorem symbols_bracketed (branches : Derivation .branches) :
    (bracketed branches).symbols = .mark '[' :: branches.symbols := rfl

@[simp] theorem symbols_last (items : Derivation .items) :
    (last items).symbols = items.symbols ++ [.mark ']'] := rfl

@[simp] theorem symbols_branch (items : Derivation .items) (others : Derivation .branches) :
    (branch items others).symbols = items.symbols ++ .mark '|' :: others.symbols := rfl

section Meaning

variable {K : Type} (kind? : String → Option K)

theorem member_eq_branchClause (clauses : List (Clause K)) :
    member clauses = branchClause clauses := by
  cases clauses with
  | nil => rfl
  | cons clause others => cases others <;> rfl

@[simp] theorem meaning_nothing : nothing.meaning kind? = [] := rfl

@[simp] theorem meaning_more (item : Derivation .item) (others : Derivation .items) :
    (more item others).meaning kind? = item.meaning kind? :: others.meaning kind? := rfl

@[simp] theorem meaning_bare (atom : Derivation .atom) :
    (bare atom).meaning kind? = atom.meaning kind? := rfl

@[simp] theorem meaning_signed (atom : Derivation .atom) (sign : Sign) :
    (signed atom sign).meaning kind? = sign.apply (atom.meaning kind?) := rfl

@[simp] theorem meaning_name (text : String) :
    (name text).meaning kind? = nameClause kind? text := by
  rw [meaning, nameClause]
  cases kind? text <;> rfl

@[simp] theorem meaning_labelled (label : String) (items : Derivation .items) :
    (labelled label items).meaning kind? =
      .group (.sequence (items.meaning kind?)) (some label) := rfl

@[simp] theorem meaning_parenthesised (items : Derivation .items) :
    (parenthesised items).meaning kind? = .sequence (items.meaning kind?) := rfl

@[simp] theorem meaning_bracketed (branches : Derivation .branches) :
    (bracketed branches).meaning kind? = .choice (branches.meaning kind?) := rfl

@[simp] theorem meaning_last (items : Derivation .items) :
    (last items).meaning kind? = [branchClause (items.meaning kind?)] := by
  rw [meaning, member_eq_branchClause]

@[simp] theorem meaning_branch (items : Derivation .items) (others : Derivation .branches) :
    (branch items others).meaning kind? =
      branchClause (items.meaning kind?) :: others.meaning kind? := by
  rw [meaning, member_eq_branchClause]

end Meaning

end Derivation

/-! ### What comes next -/

/-- Whether an item can start with the symbol. -/
def Symbol.opens : Symbol → Bool
  | .name _ => true
  | .mark c => c = '(' || c = '['

/-- Whether the symbol, behind symbols of the part, might still belong to the part. -/
def Symbol.continues (symbol : Symbol) : Part → Bool
  | .atom => symbol = .mark ':'
  | .item => symbol ∈ [.mark ':', .mark '*', .mark '+', .mark '?']
  | .items => symbol ∈ [.mark ':', .mark '*', .mark '+', .mark '?'] || symbol.opens
  | .branches => false

/-- The part is at its end in front of these symbols. -/
def Ends (part : Part) (rest : List Symbol) : Prop :=
  ∀ symbol ∈ rest.head?, symbol.continues part = false

theorem ends_nil (part : Part) : Ends part [] := by
  intro symbol member
  cases member

@[simp] theorem ends_cons_iff {part : Part} {symbol : Symbol} {rest : List Symbol} :
    Ends part (symbol :: rest) ↔ symbol.continues part = false := by
  simp [Ends]

theorem ends_branches (rest : List Symbol) : Ends .branches rest := fun _ _ => rfl

theorem Ends.item {rest : List Symbol} (ends : Ends .items rest) : Ends .item rest := by
  intro symbol member
  have closed := ends symbol member
  simp only [Symbol.continues, Bool.or_eq_false_iff] at closed ⊢
  exact closed.1

theorem Ends.atom {rest : List Symbol} (ends : Ends .item rest) : Ends .atom rest := by
  intro symbol member
  have closed := ends symbol member
  simp only [Symbol.continues, List.mem_cons, not_or, decide_eq_false_iff_not] at closed ⊢
  exact closed.1

theorem continues_item_of_opens {symbol : Symbol} (opens : symbol.opens = true) :
    symbol.continues .item = false := by
  cases symbol with
  | name text => simp [Symbol.continues]
  | mark c =>
    have bracket : c = '(' ∨ c = '[' := by simpa [Symbol.opens] using opens
    rcases bracket with rfl | rfl <;> decide

theorem not_ends_sign (sign : Sign) (behind : List Symbol) :
    ¬ Ends .item (.mark sign.mark :: behind) := by
  cases sign <;> simp [Symbol.continues, Sign.mark]

theorem ends_atom_sign (sign : Sign) (behind : List Symbol) :
    Ends .atom (.mark sign.mark :: behind) := by
  cases sign <;> simp [Symbol.continues, Sign.mark]

/-- Items end in front of what closes them or parts them from others. -/
theorem ends_items_mark {c : Char} (closes : c ∈ [')', ']', '|']) (behind : List Symbol) :
    Ends .items (.mark c :: behind) := by
  simp only [List.mem_cons, List.not_mem_nil, or_false] at closes
  rcases closes with rfl | rfl | rfl <;> simp [Symbol.continues, Symbol.opens]

namespace Derivation

/-- An atom starts with a symbol that an item can start with. -/
theorem exists_symbols_atom (derivation : Derivation .atom) :
    ∃ first rest, derivation.symbols = first :: rest ∧ first.opens = true := by
  cases derivation with
  | name text => exact ⟨.name text, _, rfl, rfl⟩
  | labelled label items => exact ⟨.name label, _, rfl, rfl⟩
  | parenthesised items => exact ⟨.mark '(', _, rfl, by decide⟩
  | bracketed branches => exact ⟨.mark '[', _, rfl, by decide⟩

theorem exists_symbols_item (derivation : Derivation .item) :
    ∃ first rest, derivation.symbols = first :: rest ∧ first.opens = true := by
  cases derivation with
  | bare atom => exact atom.exists_symbols_atom
  | signed atom sign =>
    obtain ⟨first, rest, start, opens⟩ := atom.exists_symbols_atom
    refine ⟨first, rest ++ [.mark sign.mark], ?_, opens⟩
    rw [symbols_signed, start, List.cons_append]

/-- An item is at its end in front of more items. -/
theorem ends_item (derivation : Derivation .items) {rest : List Symbol} (ends : Ends .items rest) :
    Ends .item (derivation.symbols ++ rest) := by
  cases derivation with
  | nothing => exact ends.item
  | more item others =>
    obtain ⟨first, behind, start, opens⟩ := item.exists_symbols_item
    rw [symbols_more, start, List.cons_append, List.cons_append, ends_cons_iff]
    exact continues_item_of_opens opens

/-- Items are not at their end in front of an item. -/
theorem not_ends_items (item : Derivation .item) (behind : List Symbol) :
    ¬ Ends .items (item.symbols ++ behind) := by
  obtain ⟨first, rest, start, opens⟩ := item.exists_symbols_item
  simp [start, Symbol.continues, opens]

/-! ### One way to derive symbols -/

/-- The derivation is the only one of its symbols: another one that begins alike, both parts being
at their end behind their symbols, is the same. -/
def Decided {part : Part} (derivation : Derivation part) : Prop :=
  ∀ (other : Derivation part) ⦃rest behind : List Symbol⦄,
    derivation.symbols ++ rest = other.symbols ++ behind → Ends part rest → Ends part behind →
      derivation = other ∧ rest = behind

theorem decided_nothing : nothing.Decided := by
  intro other rest behind same ends _
  cases other with
  | nothing => exact ⟨rfl, same⟩
  | more item others =>
    have item_ahead : rest = item.symbols ++ (others.symbols ++ behind) := by
      simpa using same
    exact absurd (item_ahead ▸ ends) (item.not_ends_items _)

theorem Decided.more {item : Derivation .item} {others : Derivation .items}
    (first : item.Decided) (later : others.Decided) : (more item others).Decided := by
  intro other rest behind same ends ends'
  cases other with
  | nothing =>
    have item_ahead : item.symbols ++ (others.symbols ++ rest) = behind := by
      simpa using same
    exact absurd (item_ahead ▸ ends') (item.not_ends_items _)
  | more item' others' =>
    rw [symbols_more, symbols_more, List.append_assoc, List.append_assoc] at same
    obtain ⟨rfl, onward⟩ := first item' same (others.ends_item ends) (others'.ends_item ends')
    obtain ⟨rfl, rfl⟩ := later others' onward ends ends'
    exact ⟨rfl, rfl⟩

theorem Decided.bare {atom : Derivation .atom} (decided : atom.Decided) : (bare atom).Decided := by
  intro other rest behind same ends ends'
  cases other with
  | bare atom' =>
    obtain ⟨rfl, rfl⟩ := decided atom' same ends.atom ends'.atom
    exact ⟨rfl, rfl⟩
  | signed atom' sign =>
    -- The sign would belong to the item that ends in front of it.
    rw [symbols_bare, symbols_signed, List.append_assoc] at same
    obtain ⟨-, rfl⟩ := decided atom' same ends.atom (ends_atom_sign sign behind)
    exact absurd ends (not_ends_sign sign behind)

theorem Decided.signed {atom : Derivation .atom} (decided : atom.Decided) (sign : Sign) :
    (signed atom sign).Decided := by
  intro other rest behind same ends ends'
  have ending := ends_atom_sign sign rest
  cases other with
  | bare atom' =>
    rw [symbols_signed, symbols_bare, List.append_assoc] at same
    obtain ⟨-, rfl⟩ := decided atom' same ending ends'.atom
    exact absurd ends' (not_ends_sign sign rest)
  | signed atom' sign' =>
    rw [symbols_signed, symbols_signed, List.append_assoc, List.append_assoc] at same
    obtain ⟨rfl, signs⟩ := decided atom' same ending (ends_atom_sign sign' behind)
    obtain ⟨first, rfl⟩ := List.cons.inj signs
    obtain rfl := Sign.mark_injective (Symbol.mark.inj first)
    exact ⟨rfl, rfl⟩

theorem decided_name (text : String) : (name text).Decided := by
  intro other rest behind same ends _
  cases other with
  | name text' => simpa using same
  | labelled label items =>
    -- The colon would make the name a label.
    have colon : rest = .mark ':' :: .mark '(' :: (items.symbols ++ .mark ')' :: behind) := by
      simpa using (List.cons.inj same).2
    simp [colon, Symbol.continues] at ends
  | parenthesised items => simp at same
  | bracketed branches => simp at same

theorem Decided.labelled {items : Derivation .items} (decided : items.Decided) (label : String) :
    (labelled label items).Decided := by
  intro other rest behind same _ ends'
  cases other with
  | name text =>
    have colon : .mark ':' :: .mark '(' :: (items.symbols ++ .mark ')' :: rest) = behind := by
      simpa using (List.cons.inj same).2
    simp [← colon, Symbol.continues] at ends'
  | labelled label' items' =>
    simp only [symbols_labelled, List.cons_append, List.append_assoc, List.cons.injEq,
      true_and] at same
    obtain ⟨named, inside⟩ := same
    obtain ⟨rfl, closed⟩ := decided items' inside (ends_items_mark (by simp) _)
      (ends_items_mark (by simp) _)
    cases named
    cases closed
    exact ⟨rfl, rfl⟩
  | parenthesised items => simp at same
  | bracketed branches => simp at same

theorem Decided.parenthesised {items : Derivation .items} (decided : items.Decided) :
    (parenthesised items).Decided := by
  intro other rest behind same _ _
  cases other with
  | parenthesised items' =>
    simp only [symbols_parenthesised, List.cons_append, List.append_assoc, List.cons.injEq,
      true_and] at same
    obtain ⟨rfl, closed⟩ := decided items' same (ends_items_mark (by simp) _)
      (ends_items_mark (by simp) _)
    cases closed
    exact ⟨rfl, rfl⟩
  | name text => simp at same
  | labelled label items => simp at same
  | bracketed branches => simp at same

theorem Decided.bracketed {branches : Derivation .branches} (decided : branches.Decided) :
    (bracketed branches).Decided := by
  intro other rest behind same _ _
  cases other with
  | bracketed branches' =>
    obtain ⟨-, inside⟩ := List.cons.inj same
    obtain ⟨rfl, rfl⟩ := decided branches' inside (ends_branches _) (ends_branches _)
    exact ⟨rfl, rfl⟩
  | name text => simp at same
  | labelled label items => simp at same
  | parenthesised items => simp at same

theorem Decided.last {items : Derivation .items} (decided : items.Decided) :
    (last items).Decided := by
  intro other rest behind same _ _
  have ending : Ends .items ([.mark ']'] ++ rest) := ends_items_mark (by simp) _
  cases other with
  | last items' =>
    rw [symbols_last, symbols_last, List.append_assoc, List.append_assoc] at same
    obtain ⟨rfl, closed⟩ := decided items' same ending (ends_items_mark (by simp) _)
    cases closed
    exact ⟨rfl, rfl⟩
  | branch items' others =>
    rw [symbols_last, symbols_branch, List.append_assoc, List.append_assoc] at same
    obtain ⟨-, closed⟩ := decided items' same ending (ends_items_mark (by simp) _)
    simp at closed

theorem Decided.branch {items : Derivation .items} {others : Derivation .branches}
    (first : items.Decided) (later : others.Decided) : (branch items others).Decided := by
  intro other rest behind same _ _
  have ending : Ends .items (.mark '|' :: others.symbols ++ rest) := ends_items_mark (by simp) _
  cases other with
  | last items' =>
    rw [symbols_branch, symbols_last, List.append_assoc, List.append_assoc] at same
    obtain ⟨-, closed⟩ := first items' same ending (ends_items_mark (by simp) _)
    simp at closed
  | branch items' others' =>
    rw [symbols_branch, symbols_branch, List.append_assoc, List.append_assoc] at same
    obtain ⟨rfl, barred⟩ := first items' same ending (ends_items_mark (by simp) _)
    obtain ⟨-, inside⟩ := List.cons.inj barred
    obtain ⟨rfl, rfl⟩ := later others' inside (ends_branches _) (ends_branches _)
    exact ⟨rfl, rfl⟩

/-- The grammar of production text is unambiguous. -/
theorem decided {part : Part} (derivation : Derivation part) : derivation.Decided := by
  induction derivation with
  | nothing => exact decided_nothing
  | more item others ih ih' => exact ih.more ih'
  | bare atom ih => exact ih.bare
  | signed atom sign ih => exact ih.signed sign
  | name text => exact decided_name text
  | labelled label items ih => exact ih.labelled label
  | parenthesised items ih => exact ih.parenthesised
  | bracketed branches ih => exact ih.bracketed
  | last items ih => exact ih.last
  | branch items others ih ih' => exact ih.branch ih'

theorem symbols_injective {part : Part} {derivation other : Derivation part}
    (same : derivation.symbols = other.symbols) : derivation = other :=
  (derivation.decided other (congrArg (· ++ []) same) (ends_nil part) (ends_nil part)).1

end Derivation

end ProductionText

end Lookahead
