import Lookahead.Proofs.Grammar.Coherence
import Lookahead.Proofs.Grammar.ProductionReading

/-!
# Writing productions

What is read of a production text can be written down again, and what is written down can be read,
as long as the clauses are of the kinds that production text has signs for. A written clause is cut
into symbols piece by piece: no piece runs into the next one, since between two names there is
always a mark or a blank. The symbols of a clause that can be read are derived as an item, and the
item stands for that clause.

Main statement: `ProductionText.read_written`.
-/

namespace Lookahead

/-- Whether the clause is written with a sign of repetition behind it. -/
def Clause.isRepetition {K : Type} : Clause K → Bool
  | .zeroOrMore _ => true
  | .oneOrMore _ => true
  | .optional _ => true
  | _ => false

namespace ProductionText

/-! ### Pieces of text -/

/-- The text is a name from its first character to its last. -/
def IsName (text : String) : Prop :=
  ∃ c letters, text.toList = c :: letters ∧ startsName c = true ∧
    ∀ letter ∈ letters, continuesName letter = true

/-- The symbols of a text without their places. -/
def symbolsOf (text : List Char) : List Symbol := (scan text).map (·.1)

theorem Scans.map_scanFrom {offset : Nat} {text : List Char} {located : List Located}
    (scans : Scans offset text located) (start : Nat) :
    (scanFrom [] start text).map (·.1) = located.map (·.1) := by
  induction scans generalizing start with
  | nil => rfl
  | blank white _ ih => rw [scanFrom_blank white, ih]
  | name starts inside parts _ ih =>
    rw [scanFrom_name starts inside parts, List.map_cons, List.map_cons, ih]
  | mark other dark _ ih => rw [scanFrom_mark other dark, List.map_cons, List.map_cons, ih]

theorem map_scanFrom (offset : Nat) (text : List Char) :
    (scanFrom [] offset text).map (·.1) = symbolsOf text :=
  (scans_scanFrom text 0).map_scanFrom offset

@[simp] theorem parts_nil : Parts [] := fun _ member => nomatch member

@[simp] theorem parts_cons_iff {c : Char} {rest : List Char} :
    Parts (c :: rest) ↔ continuesName c = false := by
  simp [Parts]

theorem Parts.append {text rest : List Char} (parts : Parts text) (behind : Parts rest) :
    Parts (text ++ rest) := by
  cases text with
  | nil => exact behind
  | cons c text => exact parts_cons_iff.mpr (parts_cons_iff.mp parts)

/-- The text is cut into these symbols, whatever stands behind it, unless a name goes on there. -/
def Spells (text : List Char) (symbols : List Symbol) : Prop :=
  ∀ rest, Parts rest → symbolsOf (text ++ rest) = symbols ++ symbolsOf rest

namespace Spells

theorem nil : Spells [] [] := fun _ _ => rfl

theorem name {text : String} (named : IsName text) : Spells text.toList [.name text] := by
  obtain ⟨c, letters, shape, starts, inside⟩ := named
  intro rest parts
  have first := scanFrom_name starts inside parts 0
  rw [shape, symbolsOf, scan, first, List.map_cons, map_scanFrom, ← shape, String.ofList_toList]
  rfl

theorem mark {c : Char} (other : startsName c = false) (dark : Text.isWhiteSpace c = false) :
    Spells [c] [.mark c] := by
  intro rest _
  rw [List.singleton_append, symbolsOf, scan, scanFrom_mark other dark, List.map_cons,
    map_scanFrom]
  rfl

theorem blank {text : List Char} {symbols : List Symbol} (spells : Spells text symbols) :
    Spells (' ' :: text) symbols := by
  intro rest parts
  rw [List.cons_append, symbolsOf, scan, scanFrom_blank (by decide), map_scanFrom,
    spells rest parts]

theorem append {text text' : List Char} {symbols symbols' : List Symbol}
    (first : Spells text symbols) (later : Spells text' symbols') (parts : Parts text') :
    Spells (text ++ text') (symbols ++ symbols') := by
  intro rest behind
  rw [List.append_assoc, first _ (parts.append behind), later rest behind, List.append_assoc]

end Spells

/-! ### Clauses that can be written -/

/-- The clause is made of what production text has signs for. -/
inductive Readable {K : Type} [TokenKind K] (kind? : String → Option K) : Clause K → Prop
  | terminal {kind} : IsName (TokenKind.label kind) → kind? (TokenKind.label kind) = some kind →
      Readable kind? (.terminal kind)
  | rule {name} : IsName name → kind? name = none → Readable kind? (.rule name)
  | sequence {items} : (∀ item ∈ items, Readable kind? item) → Readable kind? (.sequence items)
  | choice {members} : members ≠ [] → (∀ member ∈ members, Readable kind? member) →
      Readable kind? (.choice members)
  | zeroOrMore {body} : body.isRepetition = false → Readable kind? body →
      Readable kind? (.zeroOrMore body)
  | oneOrMore {body} : body.isRepetition = false → Readable kind? body →
      Readable kind? (.oneOrMore body)
  | optional {body} : body.isRepetition = false → Readable kind? body →
      Readable kind? (.optional body)
  | group {items label} : IsName label → (∀ item ∈ items, Readable kind? item) →
      Readable kind? (.group (.sequence items) (some label))

variable {K : Type} [TokenKind K] {kind? : String → Option K}

theorem texts_eq_map (clauses : List (Clause K)) :
    Clause.texts clauses = clauses.map Clause.text := by
  induction clauses with
  | nil => rfl
  | cons clause clauses ih => rw [Clause.texts, ih, List.map_cons]

/-- The text of the clause behind a blank. -/
def spaced (clause : Clause K) : List Char := ' ' :: clause.text.toList

theorem map_toList_texts (clauses : List (Clause K)) :
    (Clause.texts clauses).map (String.toList ∘ (" " ++ ·)) = clauses.map spaced := by
  rw [texts_eq_map, List.map_map]
  refine List.map_congr_left fun clause _ => ?_
  simp [spaced]

theorem toList_text_sequence (items : List (Clause K)) :
    (Clause.sequence items).text.toList = ['('] ++ items.flatMap spaced ++ [' ', ')'] := by
  simp [Clause.text, String.toList_join, map_toList_texts, List.flatMap_def]

theorem toList_text_choice (members : List (Clause K)) :
    (Clause.choice members).text.toList =
      ['['] ++ ([' ', '|'].intercalate (members.map spaced) ++ [' ', ']']) := by
  simp [Clause.text, String.toList_intercalate, map_toList_texts]

theorem toList_text_group (items : List (Clause K)) (label : String) :
    (Clause.group (.sequence items) (some label)).text.toList =
      label.toList ++ ([':'] ++ (Clause.sequence items).text.toList) := by
  simp [Clause.text, Clause.isSequence]

/-- A right-hand side is written with a blank in front of each clause if the first blank is counted
in. -/
theorem cons_toList_sequenceText {clauses : List (Clause K)} (some_clause : clauses ≠ []) :
    ' ' :: (Clause.sequenceText clauses).toList = clauses.flatMap spaced := by
  obtain ⟨first, others, rfl⟩ := List.exists_cons_of_ne_nil some_clause
  simp only [Clause.sequenceText, texts_eq_map, List.isEmpty_cons]
  induction others generalizing first with
  | nil => simp [spaced]
  | cons second others ih =>
    have later := ih second (by simp)
    simp_all [spaced]

/-! ### Written clauses -/

/-- The clause is written as an item that stands for it. -/
def Written (kind? : String → Option K) (clause : Clause K) : Prop :=
  ∃ item : Derivation .item, item.meaning kind? = clause ∧ Spells clause.text.toList item.symbols

theorem parts_spaced (clauses : List (Clause K)) : Parts (clauses.flatMap spaced) := by
  cases clauses with
  | nil => exact parts_nil
  | cons clause clauses => exact parts_cons_iff.mpr (by decide)

/-- Clauses with a blank in front of each are written as items that stand for them. -/
theorem written_items {clauses : List (Clause K)}
    (written : ∀ clause ∈ clauses, Written kind? clause) :
    ∃ items : Derivation .items, items.meaning kind? = clauses ∧
      Spells (clauses.flatMap spaced) items.symbols := by
  induction clauses with
  | nil => exact ⟨.nothing, rfl, .nil⟩
  | cons clause clauses ih =>
    obtain ⟨⟨item, rfl, spells⟩, later⟩ := List.forall_mem_cons.mp written
    obtain ⟨items, rfl, spells'⟩ := ih later
    exact ⟨.more item items, rfl, spells.blank.append spells' (parts_spaced _)⟩

theorem parts_barred (members : List (Clause K)) :
    Parts ([' ', '|'].intercalate (members.map spaced) ++ [' ', ']']) := by
  match members with
  | [] => exact parts_cons_iff.mpr (by decide)
  | [member] => exact parts_cons_iff.mpr (by decide)
  | first :: second :: others => exact parts_cons_iff.mpr (by decide)

/-- The members of a choice are written as branches, each of them of one item. -/
theorem written_branches {members : List (Clause K)} (some_member : members ≠ [])
    (written : ∀ member ∈ members, Written kind? member) :
    ∃ branches : Derivation .branches, branches.meaning kind? = members ∧
      Spells ([' ', '|'].intercalate (members.map spaced) ++ [' ', ']']) branches.symbols := by
  have closing : Spells [' ', ']'] [.mark ']'] := (Spells.mark (by decide) (by decide)).blank
  have bar : Spells [' ', '|'] [.mark '|'] := (Spells.mark (by decide) (by decide)).blank
  induction members with
  | nil => exact absurd rfl some_member
  | cons member members ih =>
    obtain ⟨⟨item, rfl, spells⟩, later⟩ := List.forall_mem_cons.mp written
    cases members with
    | nil =>
      have whole := spells.blank.append closing (parts_cons_iff.mpr (by decide))
      exact ⟨.last (.more item .nothing), rfl, by simpa [spaced] using whole⟩
    | cons second others =>
      -- The member is the one item of its branch, so it stands for itself.
      obtain ⟨branches, same, spells'⟩ := ih (by simp) later
      have onward := bar.append spells' (parts_barred _)
      have whole := spells.blank.append onward (parts_cons_iff.mpr (by decide))
      refine ⟨.branch (.more item .nothing) branches, ?_, ?_⟩
      · rw [Derivation.meaning_branch, same]
        rfl
      · simpa [spaced] using whole

/-- A clause without a sign of repetition is written as an atom. -/
theorem Written.atom {clause : Clause K} (written : Written kind? clause)
    (once : clause.isRepetition = false) :
    ∃ atom : Derivation .atom, atom.meaning kind? = clause ∧
      Spells clause.text.toList atom.symbols := by
  obtain ⟨item, rfl, spells⟩ := written
  cases item with
  | bare atom => exact ⟨atom, rfl, spells⟩
  | signed atom sign => cases sign <;> cases once

theorem Written.signed {body : Clause K} (written : Written kind? body)
    (once : body.isRepetition = false) (sign : Sign)
    (text : (sign.apply body).text.toList = body.text.toList ++ [sign.mark]) :
    Written kind? (sign.apply body) := by
  obtain ⟨atom, rfl, spells⟩ := written.atom once
  have behind : Spells [sign.mark] [.mark sign.mark] := by
    cases sign <;> exact Spells.mark (by decide) (by decide)
  refine ⟨.signed atom sign, rfl, ?_⟩
  rw [text]
  refine spells.append behind (parts_cons_iff.mpr ?_)
  cases sign <;> decide

theorem spells_parenthesised {clauses : List (Clause K)} {symbols : List Symbol}
    (spells : Spells (clauses.flatMap spaced) symbols) :
    Spells (Clause.sequence clauses).text.toList (.mark '(' :: (symbols ++ [.mark ')'])) := by
  have closing : Spells [' ', ')'] [.mark ')'] := (Spells.mark (by decide) (by decide)).blank
  have inside := spells.append closing (parts_cons_iff.mpr (by decide))
  have opening : Spells ['('] [.mark '('] := Spells.mark (by decide) (by decide)
  have whole := opening.append inside
    ((parts_spaced clauses).append (parts_cons_iff.mpr (by decide)))
  rw [toList_text_sequence]
  exact whole

/-- A clause that can be read is written as an item. -/
theorem Readable.written {clause : Clause K} (readable : Readable kind? clause) :
    Written kind? clause := by
  induction readable with
  | @terminal kind named known =>
    refine ⟨.bare (.name (TokenKind.label kind)), ?_, Spells.name named⟩
    simp [nameClause, known]
  | @rule name named free =>
    refine ⟨.bare (.name name), ?_, Spells.name named⟩
    simp [nameClause, free]
  | @sequence clauses _ ih =>
    obtain ⟨items, same, spells⟩ := written_items ih
    exact ⟨.bare (.parenthesised items), congrArg Clause.sequence same,
      spells_parenthesised spells⟩
  | @choice members some_member _ ih =>
    obtain ⟨branches, same, spells⟩ := written_branches some_member ih
    have opening : Spells ['['] [.mark '['] := Spells.mark (by decide) (by decide)
    refine ⟨.bare (.bracketed branches), congrArg Clause.choice same, ?_⟩
    rw [toList_text_choice]
    exact opening.append spells (parts_barred members)
  | zeroOrMore once _ ih =>
    exact ih.signed once .star (by simp [Sign.apply, Sign.mark, Clause.text])
  | oneOrMore once _ ih =>
    exact ih.signed once .plus (by simp [Sign.apply, Sign.mark, Clause.text])
  | optional once _ ih =>
    exact ih.signed once .question (by simp [Sign.apply, Sign.mark, Clause.text])
  | @group clauses label named _ ih =>
    obtain ⟨items, same, spells⟩ := written_items ih
    have body := spells_parenthesised spells
    have colon : Spells [':'] [.mark ':'] := Spells.mark (by decide) (by decide)
    have onward := colon.append body (by simp [toList_text_sequence]; decide)
    refine ⟨.bare (.labelled label items),
      congrArg (fun clauses => Clause.group (.sequence clauses) (some label)) same, ?_⟩
    rw [toList_text_group]
    exact (Spells.name named).append onward (parts_cons_iff.mpr (by decide))

/-! ### Written productions -/

/-- What is written of clauses that can be read is read as these clauses. -/
theorem read_sequenceText {name : String} {clauses : List (Clause K)} (named : IsName name)
    (free : kind? name = none) (some_clause : clauses ≠ [])
    (readable : ∀ clause ∈ clauses, Readable kind? clause) :
    read kind? (name ++ " : " ++ Clause.sequenceText clauses).toList = .ok ⟨name, clauses⟩ := by
  obtain ⟨items, same, spells⟩ := written_items fun clause member =>
    (readable clause member).written
  -- The blank behind the colon counts as the blank in front of the first clause.
  have colon : Spells [' ', ':'] [.mark ':'] := (Spells.mark (by decide) (by decide)).blank
  have onward := colon.append spells (parts_spaced clauses)
  have whole := (Spells.name named).append onward (parts_cons_iff.mpr (by decide)) [] parts_nil
  have text : (name ++ " : " ++ Clause.sequenceText clauses).toList =
      name.toList ++ ([' ', ':'] ++ clauses.flatMap spaced) := by
    simp [← cons_toList_sequenceText some_clause]
  refine (readSymbols_eq_ok_iff kind? _ _).mpr ⟨items, ?_, free, same⟩
  rw [List.append_nil] at whole
  rw [text]
  exact whole.trans (List.append_nil _)

/-! ### What can be read can be written -/

theorem Scans.isName_of_mem {offset : Nat} {text : List Char} {located : List Located}
    (scans : Scans offset text located) {name : String}
    (member : .name name ∈ located.map (·.1)) : IsName name := by
  induction scans with
  | nil => cases member
  | blank _ _ ih => exact ih member
  | @name _ c letters _ _ starts inside _ _ ih =>
    rcases List.mem_cons.mp member with same | later
    · cases same
      exact ⟨c, letters, String.toList_ofList, starts, inside⟩
    · exact ih later
  | mark _ _ _ ih =>
    rcases List.mem_cons.mp member with same | later
    · cases same
    · exact ih later

/-- The part stands for clauses that can be read. -/
def Part.Readable (kind? : String → Option K) : (part : Part) → part.Meaning K → Prop
  | .items, clauses => ∀ clause ∈ clauses, ProductionText.Readable kind? clause
  | .item, clause => ProductionText.Readable kind? clause
  | .atom, clause => clause.isRepetition = false ∧ ProductionText.Readable kind? clause
  | .branches, members =>
    members ≠ [] ∧ ∀ member ∈ members, ProductionText.Readable kind? member

theorem readable_nameClause {name : String} (named : IsName name)
    (inverse : ∀ kind, kind? name = some kind → TokenKind.label kind = name) :
    Readable kind? (nameClause kind? name) := by
  unfold nameClause
  split
  next kind known =>
    have label := inverse kind known
    exact .terminal (label ▸ named) (label ▸ known)
  next free => exact .rule named free

theorem readable_branchClause {clauses : List (Clause K)}
    (readable : ∀ clause ∈ clauses, Readable kind? clause) :
    Readable kind? (branchClause clauses) := by
  unfold branchClause
  split
  next clause => exact readable clause List.mem_cons_self
  next => exact .sequence readable

/-- A derivation from names stands for clauses that can be read, if the labels of the kinds are the
names that they have in production text. -/
theorem Derivation.readable (inverse : ∀ name kind, kind? name = some kind →
    TokenKind.label kind = name) {part : Part} (derivation : Derivation part)
    (named : ∀ name, .name name ∈ derivation.symbols → IsName name) :
    part.Readable kind? (derivation.meaning kind?) := by
  induction derivation with
  | nothing => exact fun clause member => nomatch member
  | more item others ih ih' =>
    have first := ih fun name member => named name (List.mem_append_left _ member)
    have later := ih' fun name member => named name (List.mem_append_right _ member)
    exact List.forall_mem_cons.mpr ⟨first, later⟩
  | bare atom ih => exact (ih named).2
  | signed atom sign ih =>
    -- The sign stands behind an atom, and no atom is a repetition itself.
    obtain ⟨once, readable⟩ := ih fun name member => named name (List.mem_append_left _ member)
    cases sign with
    | star => exact .zeroOrMore once readable
    | plus => exact .oneOrMore once readable
    | question => exact .optional once readable
  | name text =>
    rw [Derivation.meaning_name]
    refine ⟨?_, readable_nameClause (named text List.mem_cons_self) (inverse text)⟩
    rw [nameClause]
    split <;> rfl
  | labelled label items ih =>
    have inside := ih fun name member => named name (by simp [member])
    exact ⟨rfl, .group (named label List.mem_cons_self) inside⟩
  | parenthesised items ih =>
    exact ⟨rfl, .sequence (ih fun name member => named name (by simp [member]))⟩
  | bracketed branches ih =>
    obtain ⟨some_member, inside⟩ := ih fun name member =>
      named name (List.mem_cons_of_mem _ member)
    exact ⟨rfl, .choice some_member inside⟩
  | last items ih =>
    have inside := ih fun name member => named name (List.mem_append_left _ member)
    rw [Derivation.meaning_last]
    exact ⟨List.cons_ne_nil _ _, List.forall_mem_singleton.mpr (readable_branchClause inside)⟩
  | branch items others ih ih' =>
    have first := ih fun name member => named name (List.mem_append_left _ member)
    obtain ⟨-, later⟩ := ih' fun name member =>
      named name (List.mem_append_right _ (List.mem_cons_of_mem _ member))
    rw [Derivation.meaning_branch]
    exact ⟨List.cons_ne_nil _ _, List.forall_mem_cons.mpr ⟨readable_branchClause first, later⟩⟩

/-- Clauses that can be read and are written behind the name of a rule and a colon are read again as
they were. Whatever is read, kinds being written by their names, can be read, and so it comes back
unchanged when it is written and read again. -/
theorem read_written (kind? : String → Option K) :
    (∀ name clauses, IsName name → kind? name = none → clauses ≠ [] →
      (∀ clause ∈ clauses, Readable kind? clause) →
        read kind? (name ++ " : " ++ Clause.sequenceText clauses).toList =
          .ok ⟨name, clauses⟩) ∧
    ((∀ name kind, kind? name = some kind → TokenKind.label kind = name) →
      ∀ text production, read kind? text = .ok production → production.clauses ≠ [] →
        (∀ clause ∈ production.clauses, Readable kind? clause) ∧
        read kind? (production.rule ++ " : " ++ Clause.sequenceText production.clauses).toList =
          .ok production) := by
  refine ⟨fun name clauses => read_sequenceText, ?_⟩
  intro inverse text production done some_clause
  obtain ⟨items, spelt, free, meaning⟩ := (readSymbols_eq_ok_iff kind? _ _).mp done
  -- All names in the derivation stand in the text, where the scan has found them.
  have names : ∀ name, .name name ∈ (scan text).map (·.1) → IsName name := fun _ member =>
    (scans_scanFrom text 0).isName_of_mem member
  have readable := items.readable inverse fun name member =>
    names name (by simp [spelt, member])
  have named := names production.rule (by simp [spelt])
  rw [meaning] at readable
  exact ⟨readable, read_sequenceText named free some_clause readable⟩

/-- Close writing is read, and comes back with blanks between its clauses. -/
theorem read_written_list :
    let kind? (name : String) : Option Sample.Mark := if name = "word" then some .word else none
    let clauses : List (Clause Sample.Mark) := [.rule "item",
      .optional (.choice [.terminal .word, .sequence []]),
      .zeroOrMore (.group (.sequence [.rule "item", .terminal .word]) (some "tail"))]
    (∀ name kind, kind? name = some kind → TokenKind.label kind = name) ∧
      read kind? "list:item[word|]?tail:(item word)*".toList = .ok ⟨"list", clauses⟩ ∧
      (∀ clause ∈ clauses, Readable kind? clause) ∧
      read kind? "list : item [ word | ( ) ]? tail:( item word )*".toList =
        .ok ⟨"list", clauses⟩ := by
  intro kind? clauses
  obtain ⟨again, unchanged⟩ := read_written kind?
  have inverse : ∀ name kind, kind? name = some kind → TokenKind.label kind = name := by
    intro name kind known
    by_cases same : name = "word"
    · cases (if_pos same).symm.trans known
      exact same.symm
    · cases (if_neg same).symm.trans known
  have done : read kind? "list:item[word|]?tail:(item word)*".toList = .ok ⟨"list", clauses⟩ := by
    rfl
  have readable := (unchanged inverse _ _ done (List.cons_ne_nil _ _)).1
  have named : IsName "list" :=
    ⟨'l', "ist".toList, by decide, by decide, List.all_eq_true.mp (by decide)⟩
  exact ⟨inverse, done, readable,
    again "list" clauses named (by decide) (List.cons_ne_nil _ _) readable⟩

end ProductionText

end Lookahead
