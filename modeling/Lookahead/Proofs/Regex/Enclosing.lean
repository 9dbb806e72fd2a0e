import Lookahead.Regex.Pattern

/-!
# Patterns in front of a closing parenthesis

A part of a pattern is read in the same way if a closing parenthesis stands behind the pattern. What
is left has the parenthesis behind it then, unless a comment at the end of the pattern has swallowed
it. No reader looks at what comes behind the text that it reads but to see that there is more of it,
and none takes a parenthesis for a part of what it reads.

Main statement: `Pattern.readAlternatives_agrees`.
-/

namespace Lookahead

namespace Pattern

/-! ### States with a parenthesis behind -/

/-- The second state has a closing parenthesis behind the text of the first one, or it has no text
either since the parenthesis was passed over. -/
inductive Encloses : State → State → Prop
  | behind (text : List Char) (flags : Flags) (groups : Nat) (names : List (List Char)) :
      Encloses ⟨text, flags, groups, names⟩ ⟨text ++ [')'], flags, groups, names⟩
  | passed (flags : Flags) (groups : Nat) (names : List (List Char)) :
      Encloses ⟨[], flags, groups, names⟩ ⟨[], flags, groups, names⟩

theorem Encloses.flags_eq {state state' : State} (encloses : Encloses state state') :
    state'.flags = state.flags := by
  cases encloses <;> rfl

theorem Encloses.length_le {state state' : State} (encloses : Encloses state state') :
    state.text.length ≤ state'.text.length := by
  cases encloses with
  | passed => exact Nat.le_refl _
  | behind text => simp

/-- A parenthesis is not taken for another sign. -/
theorem Encloses.head?_bne {state state' : State} (encloses : Encloses state state') {c : Char}
    (other : c ≠ ')') : (state'.text.head? != some c) = (state.text.head? != some c) := by
  cases encloses with
  | passed => rfl
  | behind text flags groups names =>
    cases text with
    | nil => simp [bne, other.symm]
    | cons first rest => rfl

/-- What the first reading gives is given by the second one too, with a parenthesis behind what is
left. -/
def Agrees {α : Type} (answer answer' : Option (α × State)) : Prop :=
  ∀ result behind, answer = some (result, behind) →
    ∃ behind', answer' = some (result, behind') ∧ Encloses behind behind'

theorem agrees_none {α : Type} (answer : Option (α × State)) : Agrees none answer :=
  fun _ _ found => by cases found

theorem agrees_some {α : Type} {behind behind' : State} (encloses : Encloses behind behind')
    (result : α) : Agrees (some (result, behind)) (some (result, behind')) := by
  rintro _ _ ⟨⟩
  exact ⟨behind', rfl, encloses⟩

/-- Whatever is said of two readings that agree, it is enough to say it where the first one gives
nothing, and where both give the same. -/
@[elab_as_elim]
theorem Agrees.elim {α : Type} {motive : Option (α × State) → Option (α × State) → Prop}
    {answer answer' : Option (α × State)} (agrees : Agrees answer answer')
    (none : ∀ answer', motive none answer')
    (some : ∀ result behind behind', Encloses behind behind' →
      motive (some (result, behind)) (some (result, behind'))) :
    motive answer answer' := by
  cases found : answer with
  | none => exact none _
  | some pair =>
    obtain ⟨behind', found', encloses⟩ := agrees pair.1 pair.2 found
    rw [found']
    exact some pair.1 pair.2 behind' encloses

theorem Agrees.map {α β : Type} {answer answer' : Option (α × State)}
    (agrees : Agrees answer answer') (change : α → β) :
    Agrees (answer.map fun (result, state) => (change result, state))
      (answer'.map fun (result, state) => (change result, state)) := by
  refine agrees.elim (fun _ => agrees_none _) fun result behind behind' encloses => ?_
  exact agrees_some encloses (change result)

/-- What comes of a reading if its result is changed or refused. -/
def changed {α β : Type} (change : α → Option β) : Option (α × State) → Option (β × State)
  | none => none
  | some (result, behind) => (change result).map (·, behind)

/-- Whether a result is refused does not depend on what is left. -/
theorem Agrees.changed {α β : Type} {answer answer' : Option (α × State)}
    (agrees : Agrees answer answer') (change : α → Option β) :
    Agrees (changed change answer) (changed change answer') := by
  refine agrees.elim (fun _ => agrees_none _) fun result behind behind' encloses => ?_
  rw [Pattern.changed, Pattern.changed]
  cases change result with
  | none => exact agrees_none _
  | some changed => exact agrees_some encloses changed

theorem skipSpaces_append (inComment : Bool) (text : List Char) :
    skipSpaces inComment (text ++ [')']) = skipSpaces inComment text ++ [')'] ∨
      skipSpaces inComment text = [] ∧ skipSpaces inComment (text ++ [')']) = [] := by
  induction text generalizing inComment with
  | nil =>
    cases inComment
    · exact Or.inl (by decide)
    · exact Or.inr (by decide)
  | cons c rest ih =>
    rw [List.cons_append, skipSpaces, skipSpaces]
    split
    · exact ih _
    · split
      · exact ih _
      · split
        · exact ih _
        · exact Or.inl rfl

theorem encloses_at (flags : Flags) (groups : Nat) (names : List (List Char))
    (text old old' : List Char) :
    Encloses (State.at ⟨old, flags, groups, names⟩ text)
      (State.at ⟨old', flags, groups, names⟩ (text ++ [')'])) := by
  unfold State.at
  dsimp only
  split
  · rcases skipSpaces_append false text with same | ⟨none, none'⟩
    · rw [same]
      exact .behind _ _ _ _
    · rw [none, none']
      exact .passed _ _ _
  · exact .behind _ _ _ _

/-- Passing over white space once more changes nothing about the parenthesis. -/
theorem Encloses.at_text {state state' : State} (encloses : Encloses state state') :
    Encloses (state.at state.text) (state'.at state'.text) := by
  cases encloses with
  | behind text flags groups names => exact encloses_at flags groups names text _ _
  | passed flags groups names =>
    have none : State.at ⟨[], flags, groups, names⟩ [] = ⟨[], flags, groups, names⟩ := by
      unfold State.at
      dsimp only [skipSpaces]
      rw [ite_self]
    rw [none]
    exact .passed _ _ _

/-! ### Characters by number -/

theorem readDigits_agrees (value count : Nat) {state state' : State}
    (encloses : Encloses state state') :
    Agrees (readDigits value count state) (readDigits value count state') := by
  induction count generalizing value state state' with
  | zero => exact agrees_some encloses value
  | succ count ih =>
    cases encloses with
    | passed => exact agrees_none _
    | behind text flags groups names =>
      cases text with
      | nil => exact agrees_none _
      | cons c rest =>
        simp only [readDigits, List.cons_append]
        cases hexValue? c with
        | none => exact agrees_none _
        | some digit => exact ih _ (encloses_at _ _ _ _ _ _)

theorem readBraced_agrees (value : Option Nat) {bound bound' : Nat} (le : bound ≤ bound')
    {state state' : State} (encloses : Encloses state state') :
    Agrees (readBraced value bound state) (readBraced value bound' state') := by
  induction bound generalizing bound' value state state' with
  | zero => exact agrees_none _
  | succ bound ih =>
    obtain ⟨bound', rfl⟩ : ∃ less, bound' = less + 1 := ⟨bound' - 1, by omega⟩
    cases encloses with
    | passed => exact agrees_none _
    | behind text flags groups names =>
      cases text with
      | nil => exact agrees_none _
      | cons c rest =>
        by_cases closing : c = '\x7d'
        · subst closing
          cases value with
          | none => exact agrees_none _
          | some value => exact agrees_some (encloses_at _ _ _ _ _ _) value
        · simp only [readBraced, List.cons_append]
          cases hexValue? c with
          | none => exact agrees_none _
          | some digit => exact ih _ (by omega) (encloses_at _ _ _ _ _ _)

/-- A number is read first, and then the character with that number is taken. -/
theorem readNumbered_eq (count : Nat) (state : State) :
    readNumbered count state =
      changed scalar?
        (match state.text with
        | '\x7b' :: rest => readBraced none rest.length (state.at rest)
        | _ => readDigits 0 count state) := by
  unfold readNumbered
  dsimp only
  split
  next none => exact (congrArg (changed scalar?) none).symm
  next value behind found => exact (congrArg (changed scalar?) found).symm

theorem readNumbered_agrees (count : Nat) {state state' : State}
    (encloses : Encloses state state') :
    Agrees (readNumbered count state) (readNumbered count state') := by
  have digits := readDigits_agrees 0 count encloses
  rw [readNumbered_eq, readNumbered_eq]
  refine Agrees.changed ?_ scalar?
  cases encloses with
  | passed => exact digits
  | behind text flags groups names =>
    cases text with
    | nil => exact digits
    | cons c rest =>
      by_cases opening : c = '\x7b'
      · subst opening
        exact readBraced_agrees none (by simp) (encloses_at _ _ _ _ _ _)
      · simpa [opening] using digits

/-! ### Properties -/

theorem readPropertyName_agrees (name : List Char) {bound bound' : Nat} (le : bound ≤ bound')
    {state state' : State} (encloses : Encloses state state') :
    Agrees (readPropertyName name bound state) (readPropertyName name bound' state') := by
  induction bound generalizing bound' name state state' with
  | zero => exact agrees_none _
  | succ bound ih =>
    obtain ⟨bound', rfl⟩ : ∃ less, bound' = less + 1 := ⟨bound' - 1, by omega⟩
    cases encloses with
    | passed => exact agrees_none _
    | behind text flags groups names =>
      cases text with
      | nil => exact agrees_none _
      | cons c rest =>
        by_cases closing : c = '\x7d'
        · subst closing
          exact agrees_some (.behind _ _ _ _) name.reverse
        · simp only [readPropertyName, List.cons_append]
          exact ih _ (by omega) (encloses_at _ _ _ _ _ _)

/-- Reads the characters with a property, as yet without regard to flags. -/
def readPropertySet (inside : State) : Option (CharSet × State) :=
  match inside.text with
  | '\x7b' :: rest =>
    match readPropertyName [] (rest.length + 1) (inside.at rest) with
    | some (name, behind) => (setOfProperty? name).map (·, behind)
    | none => none
  | '\\' :: _ => none
  | c :: rest => (Unicode.ofName? [c]).map (·, { inside with text := rest })
  | [] => none

/-- The characters with a property, as the flags have them. -/
def propertySet? (flags : Flags) (negated : Bool) (set : CharSet) : Option CharSet :=
  if flags.unicode then negatedIf flags negated (folded flags set) else none

theorem readProperty_unfold (negated : Bool) (state : State) :
    readProperty negated state =
      match readPropertySet (state.at state.text) with
      | some (set, behind) =>
        if state.flags.unicode then
          (negatedIf state.flags negated (folded state.flags set)).map (·, behind)
        else none
      | none => none := rfl

theorem readProperty_eq (negated : Bool) (state : State) :
    readProperty negated state =
      changed (propertySet? state.flags negated) (readPropertySet (state.at state.text)) := by
  rw [readProperty_unfold]
  cases readPropertySet (state.at state.text) with
  | none => rfl
  | some pair =>
    rw [changed, propertySet?]
    dsimp only
    split <;> rfl

theorem readPropertySet_agrees {inside inside' : State} (encloses : Encloses inside inside') :
    Agrees (readPropertySet inside) (readPropertySet inside') := by
  cases encloses with
  | passed => exact agrees_none _
  | behind text flags groups names =>
    cases text with
    | nil => exact agrees_none _
    | cons c rest =>
      by_cases opening : c = '\x7b'
      · subst opening
        have named (rest : List Char) : readPropertySet ⟨'\x7b' :: rest, flags, groups, names⟩ =
            changed setOfProperty? (readPropertyName [] (rest.length + 1)
              (State.at ⟨'\x7b' :: rest, flags, groups, names⟩ rest)) := by
          simp only [readPropertySet]
          split
          next name behind found => rw [found, changed]
          next none => rw [none, changed]
        rw [List.cons_append, named, named]
        exact (readPropertyName_agrees [] (by simp) (encloses_at _ _ _ _ _ _)).changed
          setOfProperty?
      · by_cases escaping : c = '\\'
        · subst escaping
          exact agrees_none _
        · have plain (more : List Char) :
              readPropertySet ⟨c :: more, flags, groups, names⟩ =
                changed Unicode.ofName? (some ([c], ⟨more, flags, groups, names⟩)) := by
            simp [readPropertySet, changed]
          rw [List.cons_append, plain, plain]
          exact (agrees_some (.behind rest flags groups names) [c]).changed Unicode.ofName?

theorem readProperty_agrees (negated : Bool) {state state' : State}
    (encloses : Encloses state state') :
    Agrees (readProperty negated state) (readProperty negated state') := by
  rw [readProperty_eq, readProperty_eq, encloses.flags_eq]
  exact (readPropertySet_agrees encloses.at_text).changed (propertySet? state.flags negated)

/-! ### Escapes -/

theorem readEdgeName_agrees (name : List Char) {bound bound' : Nat} (le : bound ≤ bound')
    {state state' : State} (encloses : Encloses state state') :
    Agrees (readEdgeName name bound state) (readEdgeName name bound' state') := by
  induction bound generalizing bound' name state state' with
  | zero => exact agrees_none _
  | succ bound ih =>
    obtain ⟨bound', rfl⟩ : ∃ less, bound' = less + 1 := ⟨bound' - 1, by omega⟩
    cases encloses with
    | passed => exact agrees_none _
    | behind text flags groups names =>
      cases text with
      | nil => exact agrees_none _
      | cons c rest =>
        simp only [readEdgeName, List.cons_append]
        split
        · exact agrees_some (.behind _ _ _ _) name
        · split
          · exact ih _ (by omega) (encloses_at _ _ _ _ _ _)
          · exact agrees_none _

theorem readBoundary_agrees {state state' : State} (encloses : Encloses state state') :
    Agrees (readBoundary state) (readBoundary state') := by
  cases encloses with
  | passed => exact agrees_some (.passed _ _ _) _
  | behind text flags groups names =>
    have plain := agrees_some (.behind text flags groups names)
      (Assertion.word .boundary (wordSet flags))
    cases text with
    | nil => exact plain
    | cons c rest =>
      by_cases opening : c = '\x7b'
      · subst opening
        have inside := encloses_at flags groups names rest ('\x7b' :: rest)
          ('\x7b' :: (rest ++ [')']))
        simp only [readBoundary, List.cons_append]
        generalize State.at ⟨'\x7b' :: rest, flags, groups, names⟩ rest = opened at inside ⊢
        generalize State.at ⟨'\x7b' :: (rest ++ [')']), flags, groups, names⟩ (rest ++ [')']) =
          opened' at inside ⊢
        cases inside with
        | passed => exact agrees_none _
        | behind shown flags' groups' names' =>
          cases shown with
          | nil => exact agrees_none _
          | cons first others =>
            have named := readEdgeName_agrees [] (Nat.le_succ rest.length)
              (.behind (first :: others) flags' groups' names')
            rw [List.cons_append] at named
            simp only [List.cons_append, List.length_append, List.length_singleton]
            split
            · refine named.elim (fun _ => agrees_none _) fun name behind behind' onward => ?_
              dsimp only
              rw [onward.flags_eq]
              cases edgeOfName? (String.ofList name) with
              | none => exact agrees_none _
              | some edge => exact agrees_some onward _
            · exact plain
      · simpa [readBoundary, opening] using plain

/-- What a letter stands for behind a backslash, if nothing that follows it belongs to it. -/
def plainEscape? (flags : Flags) (c : Char) : Option Escape :=
  match setOfLetter? flags c, controlOfLetter? c, assertionOfLetter? flags c with
  | some set, _, _ => some (.set set)
  | none, some control, _ => some (.char control)
  | none, none, some assertion => some (.assertion assertion)
  | none, none, none => none

/-- Such an escape does not depend on what follows it. -/
theorem readEscape_plain (c : Char) (flags : Flags) (groups : Nat) (names : List (List Char))
    (plain : c ∉ ['x', 'u', 'U', 'p', 'P', 'b']) :
    ∃ escape : Option Escape, ∀ rest, readEscape ⟨c :: rest, flags, groups, names⟩ =
      escape.map (·, ⟨rest, flags, groups, names⟩) := by
  simp only [List.mem_cons, List.not_mem_nil, or_false, not_or] at plain
  obtain ⟨x, u, U, p, P, b⟩ := plain
  simp only [readEscape]
  by_cases escapable : isEscapable c
  · exact ⟨some (.char c), fun rest => by simp [escapable]⟩
  · refine ⟨plainEscape? flags c, fun rest => ?_⟩
    rw [if_neg escapable, plainEscape?]
    cases setOfLetter? flags c <;> cases controlOfLetter? c <;>
      cases assertionOfLetter? flags c <;> rfl

theorem readEscape_agrees {state state' : State} (encloses : Encloses state state') :
    Agrees (readEscape state) (readEscape state') := by
  cases encloses with
  | passed => exact agrees_none _
  | behind text flags groups names =>
    cases text with
    | nil => exact agrees_none _
    | cons c rest =>
      rw [List.cons_append]
      by_cases plain : c ∈ ['x', 'u', 'U', 'p', 'P', 'b']
      · simp only [List.mem_cons, List.not_mem_nil, or_false] at plain
        have inside := encloses_at flags groups names rest (c :: rest) (c :: (rest ++ [')']))
        have behind := Encloses.behind rest flags groups names
        rcases plain with rfl | rfl | rfl | rfl | rfl | rfl
        · simp only [readEscape]
          refine (readNumbered_agrees 2 inside).elim (fun _ => agrees_none _)
            fun c behind behind' onward => ?_
          dsimp only
          rw [inside.head?_bne (by decide)]
          split
          · exact agrees_none _
          · exact agrees_some onward _
        · exact (readNumbered_agrees 4 inside).map _
        · exact (readNumbered_agrees 8 inside).map _
        · exact (readProperty_agrees false behind).map _
        · exact (readProperty_agrees true behind).map _
        · exact (readBoundary_agrees behind).map _
      · obtain ⟨escape, read⟩ := readEscape_plain c flags groups names plain
        rw [read, read]
        cases escape with
        | none => exact agrees_none _
        | some escape => exact agrees_some (.behind rest flags groups names) escape

end Pattern

end Lookahead
