import Lookahead.Proofs.Regex.Enclosing
import Mathlib.Data.List.TakeWhile

/-!
# Sets in brackets in front of a closing parenthesis

Sets in brackets are read in the same way if a closing parenthesis stands behind the pattern. A set
is only read if it is closed, so the signs that have to be looked at behind a hyphen, for an
operation or for a named set are signs of the pattern.

Main statement: `Pattern.readSet_agrees`.
-/

namespace Lookahead

namespace Pattern

/-! ### Named sets -/

/-- Where a sign is found, a parenthesis behind the text changes nothing in front of the sign. -/
theorem spans_append (stop : Char) (other : stop ≠ ')') (text : List Char) :
    text.dropWhile (· != stop) = [] ∧ (text ++ [')']).dropWhile (· != stop) = [] ∨
      (text.dropWhile (· != stop) ≠ [] ∧
        (text ++ [')']).dropWhile (· != stop) = text.dropWhile (· != stop) ++ [')'] ∧
        (text ++ [')']).takeWhile (· != stop) = text.takeWhile (· != stop)) := by
  induction text with
  | nil =>
    refine Or.inl ⟨rfl, ?_⟩
    simp [other.symm]
  | cons c rest ih =>
    by_cases here : c = stop
    · subst here
      exact Or.inr (by simp)
    · simpa [List.dropWhile_cons, List.takeWhile_cons, here] using ih

/-- A named set is read in both cases, or in neither of them. -/
def NamedAlike (answer answer' : Option (Bool × CharSet × State)) : Prop :=
  (answer = none ∧ answer' = none) ∨
    ∃ negated set behind behind', answer = some (negated, set, behind) ∧
      answer' = some (negated, set, behind') ∧ Encloses behind behind'

/-- Reads the name of a named set and the signs behind it. -/
def readSetName (negated : Bool) (state : State) : Option (Bool × CharSet × State) :=
  match state.text.dropWhile (· != ':') with
  | ':' :: ']' :: behind =>
    (CharSet.ofAsciiName? (String.ofList (state.text.takeWhile (· != ':')))).map fun set =>
      (negated, folded state.flags set, { state with text := behind })
  | _ => none

theorem readSetName_alike (negated : Bool) {state state' : State}
    (encloses : Encloses state state') :
    NamedAlike (readSetName negated state) (readSetName negated state') := by
  cases encloses with
  | passed => exact Or.inl ⟨rfl, rfl⟩
  | behind text flags groups names =>
    unfold readSetName
    dsimp only
    rcases spans_append ':' (by decide) text with ⟨none, none'⟩ | ⟨-, drop, take⟩
    · rw [none, none']
      exact Or.inl ⟨rfl, rfl⟩
    · rw [drop, take]
      generalize CharSet.ofAsciiName? (String.ofList (text.takeWhile (· != ':'))) = named
      match text.dropWhile (· != ':') with
      | [] => exact Or.inl ⟨rfl, rfl⟩
      | [_] => exact Or.inl (by simp)
      | first :: second :: behind =>
        by_cases colon : first = ':'
        · by_cases bracket : second = ']'
          · subst colon bracket
            cases named with
            | none => exact Or.inl ⟨rfl, rfl⟩
            | some set => exact Or.inr ⟨negated, _, _, _, rfl, rfl, .behind behind _ _ _⟩
          · exact Or.inl (by simp [bracket])
        · exact Or.inl (by simp [colon])

theorem readNamedSet_eq (rest : List Char) (flags : Flags) (groups : Nat)
    (names : List (List Char)) :
    readNamedSet ⟨':' :: rest, flags, groups, names⟩ =
      let signs :=
        match rest with
        | '^' :: others => (true, others)
        | _ => (false, rest)
      readSetName signs.1 ⟨signs.2, flags, groups, names⟩ := rfl

theorem readNamedSet_alike {state state' : State} (encloses : Encloses state state') :
    NamedAlike (readNamedSet state) (readNamedSet state') := by
  cases encloses with
  | passed => exact Or.inl ⟨rfl, rfl⟩
  | behind text flags groups names =>
    cases text with
    | nil => exact Or.inl ⟨rfl, rfl⟩
    | cons c rest =>
      by_cases opening : c = ':'
      · subst opening
        rw [List.cons_append, readNamedSet_eq, readNamedSet_eq]
        cases rest with
        | nil => exact Or.inl ⟨rfl, rfl⟩
        | cons first more =>
          by_cases negation : first = '^'
          · subst negation
            exact readSetName_alike true (.behind more flags groups names)
          · simpa [negation] using
              readSetName_alike false (.behind (first :: more) flags groups names)
      · left
        simp [readNamedSet, opening]

/-! ### Members -/

theorem readAnyMember_agrees {state state' : State} (encloses : Encloses state state') :
    Agrees (readAnyMember state) (readAnyMember state') := by
  cases encloses with
  | passed => exact agrees_none _
  | behind text flags groups names =>
    cases text with
    | nil => exact agrees_none _
    | cons c rest =>
      have behind := Encloses.behind rest flags groups names
      by_cases escaping : c = '\\'
      · subst escaping
        exact readEscape_agrees behind
      · simpa [readAnyMember, escaping] using agrees_some behind (Escape.char c)

theorem readMember_agrees {state state' : State} (encloses : Encloses state state') :
    Agrees (readMember state) (readMember state') := by
  unfold readMember
  rw [encloses.flags_eq]
  refine (readAnyMember_agrees encloses).elim (fun _ => agrees_none _)
    fun escape behind behind' onward => ?_
  cases escape with
  | char c =>
    dsimp only
    split
    · exact agrees_some onward _
    · exact agrees_none _
  | set set => exact agrees_some onward _
  | assertion assertion => exact agrees_some onward _

/-! ### Hyphens -/

theorem firstShown_append (inComment : Bool) (text : List Char) :
    firstShown inComment (text ++ [')']) = (firstShown inComment text).or (some ')') := by
  induction text generalizing inComment with
  | nil =>
    have shown : Text.isWhiteSpace ')' = false := by decide
    simp [firstShown, shown]
  | cons c rest ih =>
    rw [List.cons_append, firstShown, firstShown]
    split
    · exact ih _
    · split
      · exact ih _
      · rfl

/-- Whether a sign decides about a hyphen is not changed by a parenthesis behind the pattern. -/
theorem decider?_append (flags : Flags) {rest : List Char} (more : rest ≠ []) (mark : Char)
    (shown : Text.isWhiteSpace mark = false) (sign : mark ≠ '#') (other : mark ≠ ')') :
    decider? flags (rest ++ [')']) = some mark ↔ decider? flags rest = some mark := by
  obtain ⟨c, rest, rfl⟩ := List.exists_cons_of_ne_nil more
  rw [decider?, decider?]
  split
  · rw [firstShown_append]
    cases first : firstShown false (c :: rest) with
    | some c => rfl
    | none =>
      -- The next character is passed over, so it is not the mark.
      have passed : Text.isWhiteSpace c = true ∨ c = '#' := by
        by_contra kept
        simp only [not_or, Bool.not_eq_true] at kept
        simp [firstShown, kept] at first
      refine iff_of_false (by simpa using other.symm) ?_
      simp only [Option.none_or, List.head?_cons, Option.some.injEq]
      rintro rfl
      rcases passed with space | hash
      · rw [shown] at space
        cases space
      · exact sign hash
  · rfl

theorem readRange_agrees {state state' : State} (encloses : Encloses state state') :
    Agrees (readRange state) (readRange state') := by
  unfold readRange
  refine (readMember_agrees encloses).elim (fun _ => agrees_none _)
    fun first behind behind' onward => ?_
  dsimp only
  have inside := onward.at_text
  generalize behind.at behind.text = shown at inside ⊢
  generalize behind'.at behind'.text = shown' at inside ⊢
  cases inside with
  | passed => exact agrees_none _
  | behind text flags groups names =>
    cases text with
    | nil => exact agrees_none _
    | cons c rest =>
      rw [List.cons_append]
      dsimp only
      by_cases last : rest = []
      · -- There is nothing behind a hyphen, so it cannot be a range.
        subst last
        by_cases hyphen : c = '-'
        · subst hyphen
          have undecided : decider? flags [] = none := by
            unfold decider?
            split <;> rfl
          have nothing : readMember (State.at ⟨['-'], flags, groups, names⟩ []) = none := by
            unfold State.at
            split <;> rfl
          simp only [undecided, nothing]
          cases first <;> exact agrees_none _
        · have chosen : (c != '-') = true := by simpa using hyphen
          simp only [chosen, Bool.true_or, if_true]
          cases first with
          | char low => exact agrees_some (.behind [c] flags groups names) _
          | set set => exact agrees_some (.behind [c] flags groups names) _
          | assertion assertion => exact agrees_none _
      · simp only [decider?_append flags last ']' (by decide) (by decide) (by decide),
          decider?_append flags last '-' (by decide) (by decide) (by decide)]
        split
        · cases first with
          | char low => exact agrees_some (.behind (c :: rest) flags groups names) _
          | set set => exact agrees_some (.behind (c :: rest) flags groups names) _
          | assertion assertion => exact agrees_none _
        · have next := readMember_agrees
            (encloses_at flags groups names rest (c :: rest) (c :: (rest ++ [')'])))
          refine next.elim (fun _ => ?_) fun second behind behind' onward => ?_
          · cases first <;> exact agrees_none _
          · cases first with
            | set set => exact agrees_none _
            | assertion assertion => exact agrees_none _
            | char low =>
              cases second with
              | set set => exact agrees_none _
              | assertion assertion => exact agrees_none _
              | char high =>
                dsimp only
                split
                · exact agrees_some onward _
                · exact agrees_none _

/-! ### Lists of members -/

theorem length_skipSpaces_le (inComment : Bool) (text : List Char) :
    (skipSpaces inComment text).length ≤ text.length := by
  induction text generalizing inComment with
  | nil => exact Nat.le_refl _
  | cons c rest ih =>
    rw [skipSpaces, List.length_cons]
    split
    · exact Nat.le_succ_of_le (ih _)
    · split
      · exact Nat.le_succ_of_le (ih _)
      · split
        · exact Nat.le_succ_of_le (ih _)
        · exact Nat.le_refl _

theorem length_at_le (state : State) (text : List Char) :
    (state.at text).text.length ≤ text.length := by
  unfold State.at
  dsimp only
  split
  · exact length_skipSpaces_le false text
  · exact Nat.le_refl _

/-- As many hyphens are read where the bounds cover the texts. -/
theorem readHyphens_encloses (members : Members) {bound bound' : Nat} {state state' : State}
    (encloses : Encloses state state') (enough : state.text.length ≤ bound)
    (enough' : state'.text.length ≤ bound') :
    (readHyphens members bound' state').1 = (readHyphens members bound state).1 ∧
      Encloses (readHyphens members bound state).2 (readHyphens members bound' state').2 := by
  induction bound generalizing bound' members state state' with
  | zero =>
    cases encloses with
    | passed flags groups names =>
      cases bound' <;> exact ⟨rfl, .passed flags groups names⟩
    | behind text flags groups names =>
      obtain rfl := List.eq_nil_of_length_eq_zero (Nat.le_zero.mp enough)
      cases bound' <;> exact ⟨rfl, .behind [] flags groups names⟩
  | succ bound ih =>
    cases encloses with
    | passed flags groups names =>
      cases bound' <;> exact ⟨rfl, .passed flags groups names⟩
    | behind text flags groups names =>
      cases text with
      | nil => cases bound' <;> exact ⟨rfl, .behind [] flags groups names⟩
      | cons c rest =>
        simp only [List.cons_append, List.length_cons] at enough enough'
        obtain ⟨bound', rfl⟩ : ∃ less, bound' = less + 1 := ⟨bound' - 1, by omega⟩
        by_cases hyphen : c = '-'
        · subst hyphen
          have shorter := length_at_le ⟨'-' :: rest, flags, groups, names⟩ rest
          have shorter' :=
            length_at_le ⟨'-' :: (rest ++ [')']), flags, groups, names⟩ (rest ++ [')'])
          simp only [List.cons_append, readHyphens]
          exact ih (members.add (.single '-') 0)
            (encloses_at flags groups names rest ('-' :: rest) ('-' :: (rest ++ [')'])))
            (by omega) (by omega)
        · simpa [readHyphens, hyphen] using Encloses.behind (c :: rest) flags groups names

/-- Whether a set is negated, and the state behind the sign that says so. -/
def openSign (state : State) : Bool × State :=
  match state.text with
  | '^' :: rest => (true, state.at rest)
  | _ => (false, state)

/-- Takes a closing bracket for a member where there is none yet. -/
def openBracket (negated : Bool) (members : Members) (state : State) : Bool × Members × State :=
  match members.count, state.text with
  | 0, ']' :: rest => (negated, members.add (.single ']') 0, state.at rest)
  | _, _ => (negated, members, state)

theorem openSet_eq (state : State) :
    openSet state =
      let signed := openSign (state.at state.text)
      let hyphens := readHyphens {} signed.2.text.length signed.2
      openBracket signed.1 hyphens.1 hyphens.2 := rfl

theorem openSign_encloses {state state' : State} (encloses : Encloses state state') :
    (openSign state').1 = (openSign state).1 ∧
      Encloses (openSign state).2 (openSign state').2 := by
  cases encloses with
  | passed flags groups names => exact ⟨rfl, .passed flags groups names⟩
  | behind text flags groups names =>
    cases text with
    | nil => exact ⟨rfl, .behind [] flags groups names⟩
    | cons c rest =>
      by_cases negation : c = '^'
      · subst negation
        exact ⟨rfl, encloses_at flags groups names rest ('^' :: rest) ('^' :: (rest ++ [')']))⟩
      · simpa [openSign, negation] using Encloses.behind (c :: rest) flags groups names

theorem openBracket_encloses (negated : Bool) (members : Members) {state state' : State}
    (encloses : Encloses state state') :
    (openBracket negated members state').1 = (openBracket negated members state).1 ∧
      (openBracket negated members state').2.1 = (openBracket negated members state).2.1 ∧
      Encloses (openBracket negated members state).2.2
        (openBracket negated members state').2.2 := by
  unfold openBracket
  generalize members.count = count
  cases count with
  | succ count => exact ⟨rfl, rfl, encloses⟩
  | zero =>
    cases encloses with
    | passed flags groups names => exact ⟨rfl, rfl, .passed flags groups names⟩
    | behind text flags groups names =>
      cases text with
      | nil => exact ⟨rfl, rfl, .behind [] flags groups names⟩
      | cons c rest =>
        by_cases bracket : c = ']'
        · subst bracket
          exact ⟨rfl, rfl,
            encloses_at flags groups names rest (']' :: rest) (']' :: (rest ++ [')']))⟩
        · simpa [bracket] using Encloses.behind (c :: rest) flags groups names

theorem openSet_encloses {state state' : State} (encloses : Encloses state state') :
    (openSet state').1 = (openSet state).1 ∧ (openSet state').2.1 = (openSet state).2.1 ∧
      Encloses (openSet state).2.2 (openSet state').2.2 := by
  obtain ⟨negated, signed⟩ := openSign_encloses encloses.at_text
  obtain ⟨members, hyphens⟩ := readHyphens_encloses {} signed (Nat.le_refl _) (Nat.le_refl _)
  simp only [openSet_eq, negated, members]
  exact openBracket_encloses _ _ hyphens

/-- A parenthesis is no part of an operation. -/
theorem operationOf?_append (c : Char) (rest : List Char) :
    operationOf? c ((rest ++ [')']).headD '\x00') = operationOf? c (rest.headD '\x00') := by
  cases rest with
  | cons second rest => rfl
  | nil =>
    by_cases parenthesis : c = ')'
    · subst parenthesis
      rfl
    · by_cases absent : c = '\x00'
      · subst absent
        rfl
      · simp [operationOf?, parenthesis, absent]

theorem readSet_agrees (negated : Bool) {bound bound' : Nat} (le : bound ≤ bound')
    (pending : Option (NestedSet × SetOperation)) (members : Members) {state state' : State}
    (encloses : Encloses state state') :
    Agrees (readSet negated bound pending members state)
      (readSet negated bound' pending members state') := by
  induction bound generalizing negated bound' pending members state state' with
  | zero => exact agrees_none _
  | succ bound ih =>
    obtain ⟨bound', rfl⟩ : ∃ less, bound' = less + 1 := ⟨bound' - 1, by omega⟩
    have le' : bound ≤ bound' := by omega
    have inside := encloses.at_text
    simp only [readSet]
    generalize state.at state.text = shown at inside ⊢
    generalize state'.at state'.text = shown' at inside ⊢
    cases inside with
    | passed => exact agrees_none _
    | behind text flags groups names =>
      cases text with
      | nil => exact agrees_none _
      | cons c rest =>
        rw [List.cons_append]
        have behind := Encloses.behind rest flags groups names
        by_cases closing : c = ']'
        · subst closing
          dsimp only
          generalize negatedIf _ _ _ = set
          cases set with
          | none => exact agrees_none _
          | some set => exact agrees_some behind _
        · by_cases opening : c = '['
          · subst opening
            simp only
            rcases readNamedSet_alike behind with
              ⟨unnamed, unnamed'⟩ | ⟨named, set, after, after', found, found', onward⟩
            · -- No set is named, so a set in brackets is nested.
              rw [unnamed, unnamed']
              have opened := openSet_encloses behind
              generalize openSet ⟨rest, flags, groups, names⟩ = start at opened ⊢
              generalize openSet ⟨rest ++ [')'], flags, groups, names⟩ = start' at opened ⊢
              obtain ⟨nested, first, after⟩ := start
              obtain ⟨nested', first', after'⟩ := start'
              obtain ⟨rfl, rfl, within⟩ := opened
              dsimp only
              exact (ih nested' le' none first' within).elim (fun _ => agrees_none _)
                fun member closed closed' onward => ih negated le' pending _ onward
            · rw [found, found']
              dsimp only
              generalize negatedIf _ _ _ = member
              cases member with
              | none => exact agrees_none _
              | some member => exact ih negated le' pending _ onward
          · simp only [operationOf?_append c rest]
            cases operationOf? c (rest.headD '\x00') with
            | some operation =>
              refine ih negated le' _ {} ?_
              cases rest with
              | nil =>
                -- If there were no second sign, the parenthesis would be passed over for it.
                exact .passed flags groups names
              | cons second rest => exact .behind rest flags groups names
            | none =>
              dsimp only
              exact (readRange_agrees (.behind (c :: rest) flags groups names)).elim
                (fun _ => agrees_none _)
                fun member after after' onward => ih negated le' pending _ onward

end Pattern

end Lookahead
