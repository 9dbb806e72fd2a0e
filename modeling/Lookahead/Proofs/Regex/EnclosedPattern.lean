import Lookahead.Proofs.Regex.EnclosedSets

/-!
# Whole patterns in front of a closing parenthesis

Repetitions and groups are read in the same way if a closing parenthesis stands behind the pattern,
and so are the alternatives of a whole pattern: they end at the parenthesis where they ended at the
end of the pattern before.

Main statement: `Pattern.readAlternatives_agrees`.
-/

namespace Lookahead

namespace Pattern

/-! ### Repetition -/

theorem dropWhile_isWhiteSpace_append (text : List Char) :
    (text ++ [')']).dropWhile Text.isWhiteSpace = text.dropWhile Text.isWhiteSpace ++ [')'] := by
  have shown : Text.isWhiteSpace ')' = false := by decide
  induction text with
  | nil => simp [shown]
  | cons c rest ih =>
    rw [List.cons_append, List.dropWhile_cons, List.dropWhile_cons]
    split
    · exact ih
    · rfl

theorem Encloses.dropSpaces {state state' : State} (encloses : Encloses state state') :
    Encloses { state with text := state.text.dropWhile Text.isWhiteSpace }
      { state' with text := state'.text.dropWhile Text.isWhiteSpace } := by
  cases encloses with
  | passed flags groups names => exact .passed flags groups names
  | behind text flags groups names =>
    dsimp only
    rw [dropWhile_isWhiteSpace_append]
    exact .behind _ flags groups names

/-- As many digits are read where the bounds cover the texts. -/
theorem digits_encloses (value : Option Nat) {bound bound' : Nat} {state state' : State}
    (encloses : Encloses state state') (enough : state.text.length ≤ bound)
    (enough' : state'.text.length ≤ bound') :
    (readCount.digits value bound' state').1 = (readCount.digits value bound state).1 ∧
      Encloses (readCount.digits value bound state).2
        (readCount.digits value bound' state').2 := by
  induction bound generalizing bound' value state state' with
  | zero =>
    cases encloses with
    | passed flags groups names =>
      cases bound' <;> exact ⟨rfl, .passed flags groups names⟩
    | behind text flags groups names =>
      obtain rfl := List.eq_nil_of_length_eq_zero (Nat.le_zero.mp enough)
      cases bound' <;> exact ⟨rfl, .behind [] flags groups names⟩
  | succ bound ih =>
    cases encloses with
    | passed flags groups names =>
      cases bound' <;> exact ⟨rfl, .passed flags groups names⟩
    | behind text flags groups names =>
      cases text with
      | nil => cases bound' <;> exact ⟨rfl, .behind [] flags groups names⟩
      | cons c rest =>
        simp only [List.cons_append, List.length_cons] at enough enough'
        obtain ⟨bound', rfl⟩ : ∃ less, bound' = less + 1 := ⟨bound' - 1, by omega⟩
        simp only [List.cons_append, readCount.digits]
        split
        · have shorter := length_at_le ⟨c :: rest, flags, groups, names⟩ rest
          have shorter' :=
            length_at_le ⟨c :: (rest ++ [')']), flags, groups, names⟩ (rest ++ [')'])
          exact ih _ (encloses_at flags groups names rest (c :: rest) (c :: (rest ++ [')'])))
            (by omega) (by omega)
        · exact ⟨rfl, .behind (c :: rest) flags groups names⟩

theorem readCount_agrees {state state' : State} (encloses : Encloses state state') :
    Agrees (readCount state) (readCount state') := by
  have trimmed := encloses.dropSpaces
  have digits := digits_encloses none trimmed (Nat.le_refl _) (Nat.le_refl _)
  unfold readCount
  dsimp only at digits ⊢
  generalize readCount.digits none (state.text.dropWhile _).length _ = found at digits ⊢
  generalize readCount.digits none (state'.text.dropWhile _).length _ = found' at digits ⊢
  obtain ⟨value, behind⟩ := found
  obtain ⟨value', behind'⟩ := found'
  obtain ⟨same, onward⟩ := digits
  dsimp only at same
  subst same
  dsimp only at onward ⊢
  cases value' with
  | none => exact agrees_none _
  | some value =>
    dsimp only
    split
    · exact agrees_some onward.dropSpaces.at_text _
    · exact agrees_none _

/-- Reads the larger bound of a repetition and the closing brace behind it. -/
def readHigh (low : Nat) (inside : State) : Option ((Nat × Option Nat) × State) :=
  match readCount inside with
  | none => none
  | some (high, state) =>
    match state.text with
    | '\x7d' :: rest => if low ≤ high then some ((low, some high), state.at rest) else none
    | _ => none

theorem readHigh_agrees (low : Nat) {inside inside' : State} (encloses : Encloses inside inside') :
    Agrees (readHigh low inside) (readHigh low inside') := by
  unfold readHigh
  refine (readCount_agrees encloses).elim (fun _ => agrees_none _)
    fun high state state' onward => ?_
  cases onward with
  | passed => exact agrees_none _
  | behind text flags groups names =>
    cases text with
    | nil => exact agrees_none _
    | cons c rest =>
      by_cases closing : c = '\x7d'
      · subst closing
        have behind :=
          encloses_at flags groups names rest ('\x7d' :: rest) ('\x7d' :: (rest ++ [')']))
        simp only [List.cons_append]
        split
        · exact agrees_some behind _
        · exact agrees_none _
      · simpa [closing] using agrees_none _

/-- Reads what stands behind the comma of a repetition: the larger bound, if there is one. -/
def readUpper (low : Nat) (outer inside : State) : Option ((Nat × Option Nat) × State) :=
  match inside.text with
  | '\x7d' :: rest => some ((low, none), outer.at rest)
  | _ => readHigh low inside

theorem readUpper_agrees (low : Nat) (flags : Flags) (groups : Nat) (names : List (List Char))
    (old old' : List Char) {inside inside' : State} (encloses : Encloses inside inside') :
    Agrees (readUpper low ⟨old, flags, groups, names⟩ inside)
      (readUpper low ⟨old', flags, groups, names⟩ inside') := by
  have high := readHigh_agrees low encloses
  cases encloses with
  | passed => exact high
  | behind text flags' groups' names' =>
    cases text with
    | nil => exact agrees_none _
    | cons c rest =>
      by_cases closing : c = '\x7d'
      · subst closing
        exact agrees_some (encloses_at flags groups names rest old old') _
      · have bounded (outer : State) (more : List Char) :
            readUpper low outer ⟨c :: more, flags', groups', names'⟩ =
              readHigh low ⟨c :: more, flags', groups', names'⟩ := by
          simp [readUpper, closing]
        rwa [List.cons_append, bounded, bounded]

theorem readBounds_eq (state : State) :
    readBounds state =
      match readCount state with
      | none => none
      | some (low, behind) =>
        match behind.text with
        | '\x7d' :: rest => some ((low, some low), behind.at rest)
        | ',' :: rest => readUpper low behind (behind.at rest)
        | _ => none := rfl

theorem readBounds_agrees {state state' : State} (encloses : Encloses state state') :
    Agrees (readBounds state) (readBounds state') := by
  rw [readBounds_eq, readBounds_eq]
  refine (readCount_agrees encloses).elim (fun _ => agrees_none _)
    fun low behind behind' onward => ?_
  cases onward with
  | passed => exact agrees_none _
  | behind text flags groups names =>
    cases text with
    | nil => exact agrees_none _
    | cons c rest =>
      rw [List.cons_append]
      have inside := encloses_at flags groups names rest (c :: rest) (c :: (rest ++ [')']))
      by_cases closing : c = '\x7d'
      · subst closing
        exact agrees_some inside _
      · by_cases comma : c = ','
        · subst comma
          exact readUpper_agrees low flags groups names _ _ inside
        · simpa [closing, comma] using agrees_none _

theorem readGreed_encloses {state state' : State} (encloses : Encloses state state') :
    (readGreed state').1 = (readGreed state).1 ∧
      Encloses (readGreed state).2 (readGreed state').2 := by
  cases encloses with
  | passed flags groups names => exact ⟨rfl, .passed flags groups names⟩
  | behind text flags groups names =>
    cases text with
    | nil => exact ⟨rfl, .behind [] flags groups names⟩
    | cons c rest =>
      by_cases sign : c = '?'
      · subst sign
        exact ⟨rfl, .behind rest flags groups names⟩
      · simpa [readGreed, sign] using Encloses.behind (c :: rest) flags groups names

/-! ### Groups -/

theorem readGroupName_encloses {state state' behind : State} (encloses : Encloses state state')
    (found : readGroupName state = some behind) :
    ∃ behind', readGroupName state' = some behind' ∧ Encloses behind behind' := by
  cases encloses with
  | passed => cases found
  | behind text flags groups names =>
    unfold readGroupName at found ⊢
    dsimp only at found ⊢
    rcases spans_append '>' (by decide) text with ⟨none, -⟩ | ⟨-, drop, take⟩
    · rw [none] at found
      cases found
    · rw [drop, take]
      generalize text.dropWhile (· != '>') = left at found ⊢
      generalize text.takeWhile (· != '>') = name at found ⊢
      cases left with
      | nil => cases found
      | cons c rest =>
        cases name with
        | nil => simp at found
        | cons first others =>
          by_cases closing : c = '>'
          · subst closing
            simp only [List.cons_append] at found ⊢
            split at found
            next allowed =>
              cases found
              exact ⟨_, if_pos allowed, .behind rest flags groups _⟩
            next => cases found
          · simp [closing] at found

/-- Flags are only read up to a sign of the pattern. -/
theorem readFlags_append {seen : List Char} {flags flags' : Flags} {text rest : List Char}
    {any : Bool} (found : readFlags seen flags text = some (flags', any, rest)) :
    readFlags seen flags (text ++ [')']) = some (flags', any, rest ++ [')']) := by
  induction text generalizing seen flags with
  | nil => cases found
  | cons c text ih =>
    rw [List.cons_append]
    rw [readFlags] at found ⊢
    split at found
    next ending =>
      rw [if_pos ending]
      split at found
      · cases found
      next complete =>
        rw [if_neg complete]
        cases found
        rfl
    next onward =>
      rw [if_neg onward]
      split at found
      · cases found
      next fresh =>
        rw [if_neg fresh]
        split at found
        next hyphen =>
          rw [if_pos hyphen]
          exact ih found
        next letter =>
          rw [if_neg letter]
          split at found
          · cases found
          next set => exact ih found

/-- Both parentheses open the same, and the states have a parenthesis behind the one and not behind
the other. -/
inductive Opening.Alike : Opening → Opening → Prop
  | group (number : Option Nat) {state state' : State} :
      Encloses state state' → Alike (.group number state) (.group number state')
  | flags {state state' : State} : Encloses state state' → Alike (.flags state) (.flags state')

theorem Opening.Alike.numbered {state state' : State} (encloses : Encloses state state') :
    Opening.Alike (.numbered state) (.numbered state') := by
  cases encloses with
  | passed => exact .group _ (.passed _ _ _)
  | behind text => exact .group _ (.behind text _ _ _)

/-- What is opened by a named group. -/
theorem readGroupName_alike {state state' : State} {opening : Opening}
    (encloses : Encloses state state')
    (found : (readGroupName state).map Opening.numbered = some opening) :
    ∃ opening', (readGroupName state').map Opening.numbered = some opening' ∧
      opening.Alike opening' := by
  obtain ⟨behind, named, rfl⟩ := Option.map_eq_some_iff.mp found
  obtain ⟨behind', named', onward⟩ := readGroupName_encloses encloses named
  exact ⟨_, by rw [named', Option.map_some], .numbered onward⟩

/-- Reads flags, and the sign behind them that says how far they reach. -/
def readFlagGroup (state : State) : Option Opening :=
  match readFlags [] state.flags state.text with
  | some (flags, _, ':' :: rest) => some (.group none { state with text := rest, flags })
  | some (flags, true, ')' :: rest) => some (.flags { state with text := rest, flags })
  | _ => none

theorem readFlagGroup_alike {text : List Char} {flags : Flags} {groups : Nat}
    {names : List (List Char)} {opening : Opening}
    (found : readFlagGroup ⟨text, flags, groups, names⟩ = some opening) :
    ∃ opening', readFlagGroup ⟨text ++ [')'], flags, groups, names⟩ = some opening' ∧
      opening.Alike opening' := by
  unfold readFlagGroup at found ⊢
  dsimp only at found ⊢
  cases read : readFlags [] flags text with
  | none =>
    rw [read] at found
    cases found
  | some answer =>
    obtain ⟨flags', any, left⟩ := answer
    rw [read] at found
    rw [readFlags_append read]
    cases left with
    | nil => simp at found
    | cons c rest =>
      by_cases colon : c = ':'
      · subst colon
        cases found
        exact ⟨_, rfl, .group none (.behind rest flags' groups names)⟩
      · by_cases closing : c = ')' ∧ any = true
        · obtain ⟨rfl, rfl⟩ := closing
          cases found
          exact ⟨_, rfl, .flags (.behind rest flags' groups names)⟩
        · cases any with
          | false => simp [colon] at found
          | true =>
            have other : c ≠ ')' := by simpa using closing
            simp [colon, other] at found

/-- What an opening parenthesis starts, where no white space is in front. -/
def openAt (state : State) : Option Opening :=
  match state.text with
  | '?' :: 'P' :: '<' :: rest => (readGroupName { state with text := rest }).map .numbered
  | '?' :: '<' :: rest => (readGroupName { state with text := rest }).map .numbered
  | '?' :: rest => readFlagGroup { state with text := rest }
  | _ => some (.numbered state)

theorem readOpening_eq (state : State) : readOpening state = openAt (state.at state.text) := rfl

/-- There is no flag of that letter, so it only stands in front of a name. -/
theorem readFlagGroup_letter (text : List Char) (flags : Flags) (groups : Nat)
    (names : List (List Char)) : readFlagGroup ⟨'P' :: text, flags, groups, names⟩ = none := by
  simp [readFlagGroup, readFlags, Flags.set?]

theorem readOpening_alike {state state' : State} {opening : Opening}
    (encloses : Encloses state state') (found : readOpening state = some opening) :
    ∃ opening', readOpening state' = some opening' ∧ opening.Alike opening' := by
  rw [readOpening_eq] at found ⊢
  have inside := encloses.at_text
  generalize state.at state.text = shown at inside found
  generalize state'.at state'.text = shown' at inside ⊢
  cases inside with
  | passed flags groups names =>
    cases found
    exact ⟨_, rfl, .numbered (.passed flags groups names)⟩
  | behind text flags groups names =>
    cases text with
    | nil =>
      cases found
      exact ⟨_, rfl, .numbered (.behind [] flags groups names)⟩
    | cons c rest =>
      by_cases mark : c = '?'
      · subst mark
        cases rest with
        | nil => cases found
        | cons c rest =>
          by_cases angle : c = '<'
          · subst angle
            exact readGroupName_alike (.behind rest flags groups names) found
          · by_cases letter : c = 'P'
            · subst letter
              cases rest with
              | nil => simp [openAt, readFlagGroup_letter] at found
              | cons c rest =>
                by_cases angle : c = '<'
                · subst angle
                  exact readGroupName_alike (.behind rest flags groups names) found
                · simp [openAt, readFlagGroup_letter, angle] at found
            · have flagged (more : List Char) : openAt ⟨'?' :: c :: more, flags, groups, names⟩ =
                  readFlagGroup ⟨c :: more, flags, groups, names⟩ := by
                simp [openAt, angle, letter]
              rw [flagged] at found
              rw [List.cons_append, List.cons_append, flagged]
              exact readFlagGroup_alike found
      · have numbered (more : List Char) : openAt ⟨c :: more, flags, groups, names⟩ =
            some (.numbered ⟨c :: more, flags, groups, names⟩) := by
          simp [openAt, mark]
        rw [numbered] at found
        rw [List.cons_append, numbered]
        cases found
        exact ⟨_, rfl, .numbered (.behind (c :: rest) flags groups names)⟩

/-! ### Alternatives -/

/-- Behind a repetition both readings go on with the same parts. -/
theorem repeatLast_agrees {next next' : List Part → State → Option (List Expression × State)}
    {after after' : State} (onward : Encloses after after')
    (each : ∀ parts {state state' : State}, Encloses state state' →
      Agrees (next parts state) (next' parts state'))
    (low : Nat) (high : Option Nat) (parts : List Part) :
    Agrees
      (match repeatLast low high (readGreed after).1 parts with
      | none => none
      | some parts => next parts (readGreed after).2)
      (match repeatLast low high (readGreed after').1 parts with
      | none => none
      | some parts => next' parts (readGreed after').2) := by
  obtain ⟨greedy, behind⟩ := readGreed_encloses onward
  rw [greedy]
  cases repeatLast low high (readGreed after).1 parts with
  | none => exact agrees_none _
  | some parts => exact each parts behind

/-- Alternatives are read in the same way where a parenthesis stands behind the pattern. -/
theorem readAlternatives_agrees {bound bound' : Nat} (le : bound ≤ bound') (parts : List Part)
    {state state' : State} (encloses : Encloses state state') :
    Agrees (readAlternatives bound parts state) (readAlternatives bound' parts state') := by
  induction bound generalizing bound' parts state state' with
  | zero => exact agrees_none _
  | succ bound ih =>
    obtain ⟨bound', rfl⟩ : ∃ less, bound' = less + 1 := ⟨bound' - 1, by omega⟩
    have le' : bound ≤ bound' := by omega
    have repeated {after after' : State} (onward : Encloses after after') :=
      repeatLast_agrees onward (ih le')
    have inside := encloses.at_text
    simp only [readAlternatives]
    generalize state.at state.text = shown at inside ⊢
    generalize state'.at state'.text = shown' at inside ⊢
    cases inside with
    | passed flags groups names => exact agrees_some (.passed flags groups names) _
    | behind text flags groups names =>
      cases text with
      | nil =>
        -- The pattern ends here, and the second reading stops at the parenthesis behind it.
        exact agrees_some (.behind [] flags groups names) _
      | cons c rest =>
        rw [List.cons_append]
        have behind := Encloses.behind rest flags groups names
        by_cases closing : c = ')'
        · subst closing
          exact agrees_some (.behind (')' :: rest) flags groups names) _
        by_cases bar : c = '|'
        · subst bar
          simp only
          exact (ih le' [] behind).elim (fun _ => agrees_none _)
            fun others after after' onward => agrees_some onward _
        by_cases opening : c = '('
        · subst opening
          simp only
          cases opened : readOpening ⟨rest, flags, groups, names⟩ with
          | none => exact agrees_none _
          | some start =>
            obtain ⟨start', opened', alike⟩ := readOpening_alike behind opened
            rw [opened']
            cases alike with
            | flags onward => exact ih le' _ onward
            | group number onward =>
              simp only
              refine (ih le' [] onward).elim (fun _ => agrees_none _)
                fun alternatives after after' closed => ?_
              -- A group that the pattern does not close is refused by the first reading, so it
              -- does not matter that the second one has a parenthesis for it.
              cases closed with
              | passed => exact agrees_none _
              | behind text flags' groups' names' =>
                cases text with
                | nil => exact agrees_none _
                | cons c rest =>
                  by_cases closing : c = ')'
                  · subst closing
                    exact ih le' _ (.behind rest flags groups' names')
                  · simpa [closing] using agrees_none _
        by_cases bracket : c = '['
        · subst bracket
          simp only
          have opened := openSet_encloses behind
          generalize openSet ⟨rest, flags, groups, names⟩ = start at opened ⊢
          generalize openSet ⟨rest ++ [')'], flags, groups, names⟩ = start' at opened ⊢
          obtain ⟨negated, first, inside⟩ := start
          obtain ⟨negated', first', inside'⟩ := start'
          obtain ⟨rfl, rfl, within⟩ := opened
          simp only
          exact (readSet_agrees negated' within.length_le none first' within).elim
            (fun _ => agrees_none _) fun set after after' onward => ih le' _ onward
        by_cases brace : c = '\x7b'
        · subst brace
          simp only
          have bounds := readBounds_agrees
            (encloses_at flags groups names rest ('\x7b' :: rest) ('\x7b' :: (rest ++ [')'])))
          exact bounds.elim (fun _ => agrees_none _)
            fun found after after' onward => repeated onward found.1 found.2 parts
        by_cases escaping : c = '\\'
        · subst escaping
          simp only
          exact (readEscape_agrees behind).elim (fun _ => agrees_none _)
            fun escape after after' onward => ih le' _ onward
        · simp only
          cases repetition? c with
          | some bounds => exact repeated behind bounds.1 bounds.2 parts
          | none =>
            simp only
            cases charRegex? flags c with
            | none => exact agrees_none _
            | some regex => exact ih le' _ behind

end Pattern

end Lookahead
