import Lookahead.Proofs.Grammar.ProductionSyntax

/-!
# Reading productions

Reading a production text takes two steps. The text is cut into symbols in the one way in which
names are as long as they can be, and the symbols are read by functions that follow the grammar of
production text. What they read is derived from the grammar, and whatever is derived from it they
read: the bounds that keep them from running on are never felt, since every call inside another one
has fewer symbols in front of it.

Main statement: `ProductionText.read_exact`.
-/

namespace Lookahead

namespace ProductionText

/-! ### Symbols of a text -/

theorem toNat_of_continuesName {c : Char} (continues : continuesName c = true) :
    (48 ≤ c.toNat ∧ c.toNat ≤ 57) ∨ (65 ≤ c.toNat ∧ c.toNat ≤ 90) ∨
      (97 ≤ c.toNat ∧ c.toNat ≤ 122) ∨ c.toNat = 95 := by
  simp only [continuesName, startsName, Bool.or_eq_true, Bool.and_eq_true, decide_eq_true_eq,
    Char.le_def, UInt32.le_iff_toNat_le] at continues
  rcases continues with ((upper | lower) | line) | digit
  · exact .inr (.inl upper)
  · exact .inr (.inr (.inl lower))
  · subst line
    decide
  · exact .inl digit

theorem utf8Size_of_continuesName {c : Char} (continues : continuesName c = true) :
    c.utf8Size = 1 := by
  have code := toNat_of_continuesName continues
  rw [Char.utf8Size_eq_one_iff, UInt32.le_iff_toNat_le]
  change c.toNat ≤ 127
  omega

theorem isWhiteSpace_of_continuesName {c : Char} (continues : continuesName c = true) :
    Text.isWhiteSpace c = false := by
  have code := toNat_of_continuesName continues
  simp [Text.isWhiteSpace, CharSet.contains, Text.whiteSpace, CharSet.inRanges]
  omega

theorem continuesName_of_startsName {c : Char} (starts : startsName c = true) :
    continuesName c = true := by
  simp [continuesName, starts]

/-- No name can go on with the text. -/
def Parts (rest : List Char) : Prop := ∀ c ∈ rest.head?, continuesName c = false

/-- The text from byte `offset` on is cut into symbols: white space is passed over, a name is a
letter or a low line with all letters, low lines and digits that follow, and any other character is
a symbol of its own. -/
inductive Scans : Nat → List Char → List Located → Prop
  | nil {offset} : Scans offset [] []
  | blank {offset c rest symbols} : Text.isWhiteSpace c = true →
      Scans (offset + c.utf8Size) rest symbols → Scans offset (c :: rest) symbols
  | name {offset c letters rest symbols} : startsName c = true →
      (∀ letter ∈ letters, continuesName letter = true) → Parts rest →
      Scans (offset + Text.byteLength (c :: letters)) rest symbols →
      Scans offset (c :: letters ++ rest)
        ((.name (String.ofList (c :: letters)), offset) :: symbols)
  | mark {offset c rest symbols} : startsName c = false → Text.isWhiteSpace c = false →
      Scans (offset + c.utf8Size) rest symbols →
      Scans offset (c :: rest) ((.mark c, offset) :: symbols)

theorem scanFrom_nil_cons (offset : Nat) (c : Char) (rest : List Char) :
    scanFrom [] offset (c :: rest) =
      if startsName c then scanFrom [c] (offset + c.utf8Size) rest
      else if Text.isWhiteSpace c then scanFrom [] (offset + c.utf8Size) rest
      else (.mark c, offset) :: scanFrom [] (offset + c.utf8Size) rest := by
  simp [scanFrom, closeName]

/-- An open name takes in the letters that follow it, as far as they go. -/
theorem scanFrom_letters {name letters rest : List Char} (opened : name ≠ [])
    (inside : ∀ letter ∈ letters, continuesName letter = true) (parts : Parts rest)
    (offset : Nat) :
    scanFrom name offset (letters ++ rest) =
      (.name (String.ofList (name ++ letters)), offset - name.length) ::
        scanFrom [] (offset + Text.byteLength letters) rest := by
  induction letters generalizing name offset with
  | nil =>
    cases rest with
    | nil => simp [scanFrom, closeName, opened]
    | cons c rest =>
      have stops : continuesName c = false := parts c rfl
      simp [scanFrom, closeName, opened, stops]
  | cons letter letters ih =>
    have goes := inside letter List.mem_cons_self
    have size := utf8Size_of_continuesName goes
    have longer : name ++ [letter] ≠ [] := by simp
    have later := ih longer
      (fun other member => inside other (List.mem_cons_of_mem _ member)) (offset + 1)
    have same : offset + 1 - (name ++ [letter]).length = offset - name.length := by
      rw [List.length_append, List.length_singleton, Nat.add_sub_add_right]
    rw [List.append_assoc, List.singleton_append, same, Nat.add_assoc] at later
    simp [scanFrom, opened, goes, size, later]

theorem scanFrom_name {c : Char} {letters rest : List Char} (starts : startsName c = true)
    (inside : ∀ letter ∈ letters, continuesName letter = true) (parts : Parts rest)
    (offset : Nat) :
    scanFrom [] offset (c :: letters ++ rest) =
      (.name (String.ofList (c :: letters)), offset) ::
        scanFrom [] (offset + Text.byteLength (c :: letters)) rest := by
  have size := utf8Size_of_continuesName (continuesName_of_startsName starts)
  have later := scanFrom_letters (List.cons_ne_nil c []) inside parts (offset + 1)
  rw [List.cons_append, scanFrom_nil_cons, if_pos starts, size, later, Text.byteLength_cons, size]
  simp [Nat.add_assoc]

theorem scanFrom_blank {c : Char} (white : Text.isWhiteSpace c = true) (offset : Nat)
    (rest : List Char) :
    scanFrom [] offset (c :: rest) = scanFrom [] (offset + c.utf8Size) rest := by
  have other : startsName c = false := by
    rw [Bool.eq_false_iff]
    intro starts
    simp [isWhiteSpace_of_continuesName (continuesName_of_startsName starts)] at white
  simp [scanFrom_nil_cons, other, white]

theorem scanFrom_mark {c : Char} (other : startsName c = false)
    (dark : Text.isWhiteSpace c = false) (offset : Nat) (rest : List Char) :
    scanFrom [] offset (c :: rest) =
      (.mark c, offset) :: scanFrom [] (offset + c.utf8Size) rest := by
  simp [scanFrom_nil_cons, other, dark]

theorem Scans.eq {offset : Nat} {text : List Char} {symbols : List Located}
    (scans : Scans offset text symbols) : symbols = scanFrom [] offset text := by
  induction scans with
  | nil => rfl
  | blank white _ ih => rw [scanFrom_blank white, ih]
  | name starts inside parts _ ih => rw [scanFrom_name starts inside parts, ih]
  | mark other dark _ ih => rw [scanFrom_mark other dark, ih]

/-- Every text can be cut into symbols. -/
theorem scans_scanFrom (text : List Char) (offset : Nat) :
    Scans offset text (scanFrom [] offset text) := by
  -- A name takes more than one character, so the induction is on the length of the text.
  induction length : text.length using Nat.strongRecOn generalizing text offset with
  | _ length ih =>
    cases text with
    | nil => exact .nil
    | cons c rest =>
      rw [List.length_cons] at length
      cases starts : startsName c with
      | true =>
        have split := rest.takeWhile_append_dropWhile (p := continuesName)
        have inside : ∀ letter ∈ rest.takeWhile continuesName, continuesName letter = true :=
          fun letter member => List.all_eq_true.mp List.all_takeWhile letter member
        have parts : Parts (rest.dropWhile continuesName) := by
          intro next member
          have found := rest.head?_dropWhile_not continuesName
          rw [Option.mem_def.mp member] at found
          exact found
        have shorter : (rest.dropWhile continuesName).length ≤ rest.length :=
          (List.dropWhile_suffix _).length_le
        have later := ih _ (by omega) (rest.dropWhile continuesName)
          (offset + Text.byteLength (c :: rest.takeWhile continuesName)) rfl
        have whole := Scans.name starts inside parts later
        rw [← scanFrom_name starts inside parts, List.cons_append, split] at whole
        exact whole
      | false =>
        have later := ih _ (by omega) rest (offset + c.utf8Size) rfl
        cases white : Text.isWhiteSpace c with
        | true =>
          rw [scanFrom_blank white]
          exact .blank white later
        | false =>
          rw [scanFrom_mark starts white]
          exact .mark starts white later

/-! ### What is read -/

theorem bind_eq_ok_iff {ε α β : Type} {first : Except ε α} {next : α → Except ε β} {result : β} :
    (first >>= next) = .ok result ↔ ∃ value, first = .ok value ∧ next value = .ok result := by
  cases first <;> simp [bind, Except.bind]

theorem expectMark_eq_ok_iff {c : Char} {symbols rest : List Located} :
    expectMark c symbols = .ok rest ↔ ∃ offset, symbols = (.mark c, offset) :: rest := by
  constructor
  · intro passed
    unfold expectMark at passed
    split at passed
    next found offset others =>
      split at passed
      next same =>
        cases passed
        exact ⟨offset, by rw [same]⟩
      next => cases passed
    next => cases passed
  · rintro ⟨offset, rfl⟩
    simp [expectMark]

variable {K : Type} {kind? : String → Option K}

/-- The first of the symbols, up to `rest`, are derived as the part and stand for `meaning`. -/
def Stands (kind? : String → Option K) (part : Part) (symbols rest : List Located)
    (meaning : part.Meaning K) : Prop :=
  ∃ (derivation : Derivation part) (front : List Located), symbols = front ++ rest ∧
    front.map (·.1) = derivation.symbols ∧ derivation.meaning kind? = meaning

/-- The reader reads nothing but items. -/
def Sound (kind? : String → Option K) (inner : ItemsReader K) : Prop :=
  ∀ symbols clauses rest, inner symbols = .ok (clauses, rest) →
    Stands kind? .items symbols rest clauses

variable {inner : ItemsReader K}

theorem readParenthesised_sound (sound : Sound kind? inner) {symbols rest : List Located}
    {clause : Clause K} (read : readParenthesised inner symbols = .ok (clause, rest)) :
    ∃ (items : Derivation .items) (front : List Located) (offset : Nat),
      symbols = front ++ (.mark ')', offset) :: rest ∧ front.map (·.1) = items.symbols ∧
      clause = .sequence (items.meaning kind?) := by
  unfold readParenthesised at read
  obtain ⟨⟨clauses, behind⟩, inside, read⟩ := bind_eq_ok_iff.mp read
  obtain ⟨others, closed, read⟩ := bind_eq_ok_iff.mp read
  obtain ⟨offset, rfl⟩ := expectMark_eq_ok_iff.mp closed
  obtain ⟨items, front, rfl, spelt, rfl⟩ := sound _ _ _ inside
  cases read
  exact ⟨items, front, offset, rfl, spelt, rfl⟩

theorem readBranches_sound (sound : Sound kind? inner) {bound : Nat}
    {symbols rest : List Located} {members : List (Clause K)}
    (read : readBranches inner bound symbols = .ok (members, rest)) :
    Stands kind? .branches symbols rest members := by
  induction bound generalizing symbols rest members with
  | zero => cases read
  | succ bound ih =>
    unfold readBranches at read
    obtain ⟨⟨clauses, behind⟩, inside, read⟩ := bind_eq_ok_iff.mp read
    obtain ⟨items, front, rfl, spelt, rfl⟩ := sound _ _ _ inside
    dsimp only at read
    split at read
    next offset others _ =>
      obtain ⟨⟨branches, behind⟩, onward, read⟩ := bind_eq_ok_iff.mp read
      obtain ⟨derivation, back, rfl, spelt', rfl⟩ := ih onward
      cases read
      exact ⟨.branch items derivation, front ++ (.mark '|', offset) :: back, by simp,
        by simp [spelt, spelt'], items.meaning_branch kind? derivation⟩
    next =>
      obtain ⟨others, closed, read⟩ := bind_eq_ok_iff.mp read
      obtain ⟨offset, rfl⟩ := expectMark_eq_ok_iff.mp closed
      cases read
      exact ⟨.last items, front ++ [(.mark ']', offset)], by simp,
        by simp [spelt], items.meaning_last kind?⟩

theorem readAtom_sound (sound : Sound kind? inner) {symbols rest : List Located}
    {clause : Clause K} (read : readAtom kind? inner symbols = .ok (clause, rest)) :
    Stands kind? .atom symbols rest clause := by
  unfold readAtom at read
  split at read
  next label first second behind =>
    split at read
    next third body =>
      obtain ⟨⟨sequence, others⟩, inside, read⟩ := bind_eq_ok_iff.mp read
      obtain ⟨items, front, offset, rfl, spelt, rfl⟩ := readParenthesised_sound sound inside
      cases read
      exact ⟨.labelled label items, (.name label, first) :: (.mark ':', second) ::
        (.mark '(', third) :: (front ++ [(.mark ')', offset)]), by simp,
        by simp [spelt], rfl⟩
    next => cases read
  next name offset behind _ =>
    cases read
    exact ⟨.name name, [(.name name, offset)], rfl, rfl, Derivation.meaning_name kind? name⟩
  next offset behind =>
    obtain ⟨items, front, offset', rfl, spelt, rfl⟩ := readParenthesised_sound sound read
    exact ⟨.parenthesised items, (.mark '(', offset) :: (front ++ [(.mark ')', offset')]), by simp,
      by simp [spelt], rfl⟩
  next offset behind =>
    obtain ⟨⟨members, others⟩, inside, read⟩ := bind_eq_ok_iff.mp read
    obtain ⟨branches, front, rfl, spelt, rfl⟩ := readBranches_sound sound inside
    cases read
    exact ⟨.bracketed branches, (.mark '[', offset) :: front, rfl,
      by simp [spelt], rfl⟩
  next => cases read

theorem readItem_sound (sound : Sound kind? inner) {symbols rest : List Located}
    {clause : Clause K} (read : readItem kind? inner symbols = .ok (clause, rest)) :
    Stands kind? .item symbols rest clause := by
  unfold readItem at read
  obtain ⟨⟨atom, behind⟩, first, read⟩ := bind_eq_ok_iff.mp read
  obtain ⟨derivation, front, rfl, spelt, rfl⟩ := readAtom_sound sound first
  have signed : ∀ (sign : Sign) (offset : Nat) (others : List Located),
      Stands kind? .item (front ++ (.mark sign.mark, offset) :: others) others
        (sign.apply (derivation.meaning kind?)) := by
    intro sign offset others
    exact ⟨.signed derivation sign, front ++ [(.mark sign.mark, offset)], by simp,
      by simp [spelt], rfl⟩
  dsimp only at read
  split at read
  next offset others _ =>
    cases read
    exact signed .star offset rest
  next offset others _ =>
    cases read
    exact signed .plus offset rest
  next offset others _ =>
    cases read
    exact signed .question offset rest
  next =>
    cases read
    exact ⟨.bare derivation, front, rfl, spelt, rfl⟩

theorem readItems_sound (kind? : String → Option K) (bound : Nat) :
    Sound kind? (readItems kind? bound) := by
  induction bound with
  | zero =>
    rintro symbols clauses rest ⟨⟩
    exact ⟨.nothing, [], rfl, rfl, rfl⟩
  | succ bound ih =>
    intro symbols clauses rest read
    unfold readItems at read
    split at read
    next =>
      obtain ⟨⟨item, behind⟩, first, read⟩ := bind_eq_ok_iff.mp read
      obtain ⟨⟨items, others⟩, later, read⟩ := bind_eq_ok_iff.mp read
      obtain ⟨derivation, front, rfl, spelt, rfl⟩ := readItem_sound ih first
      obtain ⟨derivations, back, rfl, spelt', rfl⟩ := ih _ _ _ later
      cases read
      exact ⟨.more derivation derivations, front ++ back, by simp,
        by simp [spelt, spelt'], rfl⟩
    next =>
      cases read
      exact ⟨.nothing, [], rfl, rfl, rfl⟩

/-! ### What can be read -/

theorem startsItem_eq (symbols : List Located) :
    startsItem symbols = (symbols.map (·.1)).head?.any Symbol.opens := by
  unfold startsItem
  split
  next => rfl
  next => rfl
  next => rfl
  next no_name no_parenthesis no_bracket =>
    cases symbols with
    | nil => rfl
    | cons first rest =>
      obtain ⟨symbol, offset⟩ := first
      cases symbol with
      | name text => exact (no_name _ _ _ rfl).elim
      | mark c =>
        have other : c ≠ '(' := fun same => no_parenthesis offset rest (by rw [same])
        have other' : c ≠ '[' := fun same => no_bracket offset rest (by rw [same])
        simp [Symbol.opens, other, other']

/-- The reader reads all items that have at most so many symbols, up to where they end. -/
def Complete (kind? : String → Option K) (inner : ItemsReader K) (length : Nat) : Prop :=
  ∀ (items : Derivation .items) (front behind : List Located), front.map (·.1) = items.symbols →
    front.length ≤ length → Ends .items (behind.map (·.1)) →
      inner (front ++ behind) = .ok (items.meaning kind?, behind)

theorem readParenthesised_complete {length : Nat} (complete : Complete kind? inner length)
    (items : Derivation .items) {front : List Located} (behind : List Located) (offset : Nat)
    (spelt : front.map (·.1) = items.symbols) (enough : front.length ≤ length) :
    readParenthesised inner (front ++ (.mark ')', offset) :: behind) =
      .ok (.sequence (items.meaning kind?), behind) := by
  have inside := complete items front ((.mark ')', offset) :: behind) spelt enough
    (ends_items_mark (by simp) _)
  have closed : expectMark ')' ((.mark ')', offset) :: behind) = .ok behind :=
    expectMark_eq_ok_iff.mpr ⟨offset, rfl⟩
  simp [readParenthesised, inside, closed, bind, Except.bind, pure, Except.pure]

theorem readBranches_complete {length : Nat} (complete : Complete kind? inner length)
    (branches : Derivation .branches) {bound : Nat} {front : List Located}
    (behind : List Located) (spelt : front.map (·.1) = branches.symbols)
    (enough : front.length ≤ length + 1) (ample : front.length ≤ bound) :
    readBranches inner bound (front ++ behind) = .ok (branches.meaning kind?, behind) := by
  induction bound generalizing branches front with
  | zero =>
    obtain rfl := List.eq_nil_of_length_eq_zero (Nat.le_zero.mp ample)
    cases branches <;> simp at spelt
  | succ bound ih =>
    cases branches with
    | last items =>
      obtain ⟨first, last, rfl, spelt', closing⟩ := List.map_eq_append_iff.mp spelt
      obtain ⟨⟨_, offset⟩, rfl, rfl⟩ := List.map_eq_singleton_iff.mp closing
      rw [List.length_append, List.length_singleton] at enough
      have inside := complete items first ((.mark ']', offset) :: behind) spelt' (by omega)
        (ends_items_mark (by simp) _)
      have closed : expectMark ']' ((.mark ']', offset) :: behind) = .ok behind :=
        expectMark_eq_ok_iff.mpr ⟨offset, rfl⟩
      simp [readBranches, inside, closed, bind, Except.bind, pure, Except.pure]
    | branch items others =>
      obtain ⟨first, back, rfl, spelt', barred⟩ := List.map_eq_append_iff.mp spelt
      obtain ⟨⟨_, offset⟩, later, rfl, rfl, onward⟩ := List.map_eq_cons_iff.mp barred
      rw [List.length_append, List.length_cons] at enough ample
      have inside := complete items first ((.mark '|', offset) :: (later ++ behind)) spelt'
        (by omega) (ends_items_mark (by simp) _)
      have onward := ih others onward (by omega) (by omega)
      simp [readBranches, inside, onward, bind, Except.bind, pure, Except.pure]

theorem readAtom_complete {length : Nat} (complete : Complete kind? inner length)
    (atom : Derivation .atom) {front : List Located} {behind : List Located}
    (spelt : front.map (·.1) = atom.symbols) (enough : front.length ≤ length + 1)
    (ends : Ends .atom (behind.map (·.1))) :
    readAtom kind? inner (front ++ behind) = .ok (atom.meaning kind?, behind) := by
  cases atom with
  | name text =>
    obtain ⟨⟨_, offset⟩, rfl, rfl⟩ := List.map_eq_singleton_iff.mp spelt
    unfold readAtom
    split
    next same =>
      -- A colon would make the name a label.
      cases same
      simp [Symbol.continues] at ends
    next same =>
      cases same
      rw [Derivation.meaning_name]
      rfl
    next same => cases same
    next same => cases same
    next named _ _ => exact (named _ _ _ rfl).elim
  | labelled label items =>
    simp only [Derivation.symbols_labelled, List.map_eq_cons_iff, List.map_eq_append_iff] at spelt
    obtain ⟨⟨_, first⟩, _, rfl, rfl, ⟨_, second⟩, _, rfl, rfl, ⟨_, third⟩, _, rfl, rfl, inside,
      _, rfl, spelt, ⟨_, fourth⟩, _, rfl, rfl, closed⟩ := spelt
    obtain rfl := List.map_eq_nil_iff.mp closed
    simp only [List.length_cons, List.length_append] at enough
    have read := readParenthesised_complete complete items behind fourth spelt (by omega)
    simp [readAtom, read, bind, Except.bind, pure, Except.pure]
  | parenthesised items =>
    simp only [Derivation.symbols_parenthesised, List.map_eq_cons_iff,
      List.map_eq_append_iff] at spelt
    obtain ⟨⟨_, first⟩, _, rfl, rfl, inside, _, rfl, spelt, ⟨_, second⟩, _, rfl, rfl, closed⟩ :=
      spelt
    obtain rfl := List.map_eq_nil_iff.mp closed
    simp only [List.length_cons, List.length_append] at enough
    have read := readParenthesised_complete complete items behind second spelt (by omega)
    simpa [readAtom] using read
  | bracketed branches =>
    simp only [Derivation.symbols_bracketed, List.map_eq_cons_iff] at spelt
    obtain ⟨⟨_, offset⟩, inside, rfl, rfl, spelt⟩ := spelt
    rw [List.length_cons] at enough
    have read : readBranches inner ((inside ++ behind).length + 1) (inside ++ behind) =
        .ok (branches.meaning kind?, behind) :=
      readBranches_complete complete branches behind spelt (by omega) (by simp; omega)
    rw [List.length_append] at read
    simp [readAtom, read, bind, Except.bind, pure, Except.pure]

theorem readItem_complete {length : Nat} (complete : Complete kind? inner length)
    (item : Derivation .item) {front : List Located} {behind : List Located}
    (spelt : front.map (·.1) = item.symbols) (enough : front.length ≤ length + 1)
    (ends : Ends .item (behind.map (·.1))) :
    readItem kind? inner (front ++ behind) = .ok (item.meaning kind?, behind) := by
  cases item with
  | bare atom =>
    have read := readAtom_complete complete atom spelt enough ends.atom
    simp only [readItem, read, bind, Except.bind]
    split
    next => simp [Symbol.continues] at ends
    next => simp [Symbol.continues] at ends
    next => simp [Symbol.continues] at ends
    next => rfl
  | signed atom sign =>
    obtain ⟨first, last, rfl, spelt', closing⟩ := List.map_eq_append_iff.mp spelt
    obtain ⟨⟨_, offset⟩, rfl, rfl⟩ := List.map_eq_singleton_iff.mp closing
    rw [List.length_append, List.length_singleton] at enough
    have read : readAtom kind? inner (first ++ (.mark sign.mark, offset) :: behind) =
        .ok (atom.meaning kind?, (.mark sign.mark, offset) :: behind) :=
      readAtom_complete complete atom spelt' (by omega) (ends_atom_sign sign _)
    cases sign <;>
      simp_all [readItem, bind, Except.bind, pure, Except.pure, Sign.mark, Sign.apply]

theorem readItems_complete (kind? : String → Option K) (bound : Nat) :
    Complete kind? (readItems kind? bound) bound := by
  induction bound with
  | zero =>
    intro items front behind spelt enough _
    obtain rfl := List.eq_nil_of_length_eq_zero (Nat.le_zero.mp enough)
    cases items with
    | nothing => rfl
    | more item others =>
      obtain ⟨first, rest, start, -⟩ := item.exists_symbols_item
      simp [start] at spelt
  | succ bound ih =>
    intro items front behind spelt enough ends
    unfold readItems
    rw [startsItem_eq]
    cases items with
    | nothing =>
      obtain rfl := List.map_eq_nil_iff.mp spelt
      have closed : (behind.map (·.1)).head?.any Symbol.opens = false := by
        cases next : (behind.map (·.1)).head? with
        | none => rfl
        | some symbol =>
          have stops := ends symbol next
          simp only [Symbol.continues, Bool.or_eq_false_iff] at stops
          exact stops.2
      rw [List.nil_append, closed]
      rfl
    | more item others =>
      obtain ⟨first, later, rfl, spelt', later_spelt⟩ := List.map_eq_append_iff.mp spelt
      obtain ⟨symbol, rest, start, opens⟩ := item.exists_symbols_item
      have opened : ((first ++ later ++ behind).map (·.1)).head?.any Symbol.opens = true := by
        simp [spelt', start, opens]
      have positive : 0 < first.length := by
        have symbols := congrArg List.length (spelt'.trans start)
        rw [List.length_map, List.length_cons] at symbols
        omega
      rw [List.length_append] at enough
      have ends' : Ends .item ((later ++ behind).map (·.1)) := by
        rw [List.map_append, later_spelt]
        exact others.ends_item ends
      have read := readItem_complete ih item spelt' (by omega) ends'
      have onward := ih others later behind later_spelt (by omega) ends
      rw [opened, List.append_assoc]
      simp [read, onward, bind, Except.bind, pure, Except.pure]

/-! ### Bounds that are not felt -/

theorem Stands.length_le {part : Part} {symbols rest : List Located} {meaning : part.Meaning K}
    (stands : Stands kind? part symbols rest meaning) : rest.length ≤ symbols.length := by
  obtain ⟨derivation, front, rfl, -⟩ := stands
  simp

/-- An item takes a symbol. -/
theorem Stands.length_lt {symbols rest : List Located} {clause : Clause K}
    (stands : Stands kind? .item symbols rest clause) : rest.length < symbols.length := by
  obtain ⟨derivation, front, rfl, spelt, -⟩ := stands
  obtain ⟨first, others, start, -⟩ := derivation.exists_symbols_item
  have taken := congrArg List.length (spelt.trans start)
  rw [List.length_map, List.length_cons] at taken
  rw [List.length_append]
  omega

variable {inner' : ItemsReader K}

/-- Branches are read alike by readers that read items alike, under any bounds that cover the
symbols. -/
theorem readBranches_congr (sound : Sound kind? inner) {symbols : List Located}
    (alike : ∀ others : List Located, others.length ≤ symbols.length →
      inner others = inner' others) {bound bound' : Nat} (enough : symbols.length < bound)
    (enough' : symbols.length < bound') :
    readBranches inner bound symbols = readBranches inner' bound' symbols := by
  induction bound generalizing bound' symbols with
  | zero => omega
  | succ bound ih =>
    cases bound' with
    | zero => omega
    | succ bound' =>
      unfold readBranches
      rw [← alike symbols (Nat.le_refl _)]
      cases read : inner symbols with
      | error error => rfl
      | ok found =>
        obtain ⟨clauses, rest⟩ := found
        have shorter := (sound _ _ _ read).length_le
        simp only [bind, Except.bind]
        split
        next offset others =>
          rw [List.length_cons] at shorter
          have onward : readBranches inner bound others = readBranches inner' bound' others :=
            ih (fun another less => alike another (by omega)) (by omega) (by omega)
          rw [onward]
        next => rfl

theorem readItem_congr (sound : Sound kind? inner) {symbols : List Located}
    (alike : ∀ others : List Located, others.length < symbols.length →
      inner others = inner' others) :
    readItem kind? inner symbols = readItem kind? inner' symbols := by
  have atom : readAtom kind? inner symbols = readAtom kind? inner' symbols := by
    unfold readAtom
    split
    next label first second rest =>
      split
      next third body =>
        have inside := alike body (by simp only [List.length_cons]; omega)
        rw [readParenthesised, readParenthesised, inside]
      next => rfl
    next => rfl
    next offset rest => rw [readParenthesised, readParenthesised, alike rest (by simp)]
    next offset rest =>
      have inside : readBranches inner (rest.length + 1) rest =
          readBranches inner' (rest.length + 1) rest :=
        readBranches_congr sound (fun others less => alike others (by simp; omega)) (by omega)
          (by omega)
      rw [inside]
    next => rfl
  rw [readItem, readItem, atom]

/-- The bound of a reader of items is not felt if it covers the symbols. -/
theorem readItems_congr (kind? : String → Option K) {bound bound' : Nat} {symbols : List Located}
    (enough : symbols.length ≤ bound) (enough' : symbols.length ≤ bound') :
    readItems kind? bound symbols = readItems kind? bound' symbols := by
  have nothing : ∀ bound, readItems kind? bound [] = .ok ([], []) := by
    intro bound
    cases bound <;> rfl
  induction bound generalizing bound' symbols with
  | zero =>
    obtain rfl := List.eq_nil_of_length_eq_zero (Nat.le_zero.mp enough)
    rw [nothing, nothing]
  | succ bound ih =>
    cases bound' with
    | zero =>
      obtain rfl := List.eq_nil_of_length_eq_zero (Nat.le_zero.mp enough')
      rw [nothing, nothing]
    | succ bound' =>
      unfold readItems
      have first : readItem kind? (readItems kind? bound) symbols =
          readItem kind? (readItems kind? bound') symbols :=
        readItem_congr (readItems_sound kind? bound) fun others less => ih (by omega) (by omega)
      rw [← first]
      split
      next =>
        cases read : readItem kind? (readItems kind? bound) symbols with
        | error error => rfl
        | ok found =>
          obtain ⟨item, rest⟩ := found
          have shorter := (readItem_sound (readItems_sound kind? bound) read).length_lt
          simp only [bind, Except.bind]
          have onward : readItems kind? bound rest = readItems kind? bound' rest :=
            ih (by omega) (by omega)
          rw [onward]
      next => rfl

/-! ### Productions -/

/-- A production is read from symbols just if they are a name, a colon and derived items, and the
name is no token kind. -/
theorem readSymbols_eq_ok_iff (kind? : String → Option K) (symbols : List Located)
    (production : Production K) :
    readSymbols kind? symbols = .ok production ↔
      ∃ items : Derivation .items,
        symbols.map (·.1) = .name production.rule :: .mark ':' :: items.symbols ∧
        kind? production.rule = none ∧ items.meaning kind? = production.clauses := by
  constructor
  · intro read
    unfold readSymbols at read
    split at read
    next name offset rest =>
      split at read
      next => cases read
      next free =>
        obtain ⟨behind, passed, onward⟩ := bind_eq_ok_iff.mp read
        obtain ⟨second, rfl⟩ := expectMark_eq_ok_iff.mp passed
        obtain ⟨⟨clauses, others⟩, inside, ended⟩ := bind_eq_ok_iff.mp onward
        obtain ⟨items, front, rfl, spelt, rfl⟩ := readItems_sound kind? _ _ _ _ inside
        cases others with
        | nil =>
          cases ended
          exact ⟨items, by simp [spelt], by simpa using free, rfl⟩
        | cons symbol others => cases ended
    next => cases read
  · rintro ⟨items, spelt, free, meaning⟩
    simp only [List.map_eq_cons_iff] at spelt
    obtain ⟨⟨_, first⟩, _, rfl, rfl, ⟨_, second⟩, rest, rfl, rfl, spelt⟩ := spelt
    have read := readItems_complete kind? rest.length items rest [] spelt (Nat.le_refl _)
      (ends_nil _)
    rw [List.append_nil, meaning] at read
    have passed : expectMark ':' ((.mark ':', second) :: rest) = .ok rest :=
      expectMark_eq_ok_iff.mpr ⟨second, rfl⟩
    simp [readSymbols, free, passed, read, bind, Except.bind, pure, Except.pure]

/-- A text is cut into symbols in one way, and a production is read from it just if all its symbols
are a name that is no token kind, a colon and items that are derived from the grammar; the clauses
are what the items stand for. They are derived in one way only. Reading comes to an end by itself:
no bound is felt that covers the symbols. -/
theorem read_exact (kind? : String → Option K) (text : List Char) :
    ∃ located, (∀ others, Scans 0 text others ↔ others = located) ∧
      (∀ production, read kind? text = .ok production ↔
        ∃ items : Derivation .items,
          located.map (·.1) = .name production.rule :: .mark ':' :: items.symbols ∧
          kind? production.rule = none ∧ items.meaning kind? = production.clauses) ∧
      (∀ items others : Derivation .items, items.symbols = others.symbols → items = others) ∧
      (∀ bound (symbols : List Located), symbols.length ≤ bound →
        readItems kind? bound symbols = readItems kind? symbols.length symbols) ∧
      ∀ length bound (symbols : List Located), symbols.length < bound →
        readBranches (readItems kind? length) bound symbols =
          readBranches (readItems kind? length) (symbols.length + 1) symbols := by
  refine ⟨scan text, fun others => ⟨Scans.eq, ?_⟩, fun production => ?_, ?_, ?_, ?_⟩
  · rintro rfl
    exact scans_scanFrom text 0
  · exact readSymbols_eq_ok_iff kind? (scan text) production
  · exact fun items others same => Derivation.symbols_injective same
  · exact fun bound symbols enough => readItems_congr kind? enough (Nat.le_refl _)
  · intro length bound symbols enough
    exact readBranches_congr (readItems_sound kind? length) (fun _ _ => rfl) enough (by omega)

end ProductionText

end Lookahead
