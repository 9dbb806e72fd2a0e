import Lookahead.Lexer.Lexemes

/-!
# Segments of the input

What a table of lexemes does to an input is described here without places and bounds. The input is
divided into segments, from left to right. A segment is as long as the longest match of a lexeme of
what is left, and of the lexemes with such a match it belongs to the one that was declared first. So
there is only one way to divide an input, up to its end or to a text that no lexeme matches.

Main statements: `LexemeTable.wins_of_longest` and `LexemeTable.Segmentation.unique`.
-/

namespace Lookahead

namespace LexemeTable

variable {K : Type} {lexemes : List (Lexeme K)} {text : List Char} {lexeme : Lexeme K}
  {length : Nat}

/-! ### The lexeme that wins -/

/-- The lexeme has a match of the length, which is not empty. No lexeme has a longer one, and those
that were declared earlier have only shorter ones. -/
structure Wins (lexemes : List (Lexeme K)) (text : List Char) (lexeme : Lexeme K) (length : Nat) :
    Prop where
  matched : lexeme.matchLength text = some length
  positive : 0 < length
  longest : ∀ other ∈ lexemes, ∀ taken ∈ other.matchLength text, taken ≤ length
  earliest : ∃ earlier later, lexemes = earlier ++ lexeme :: later ∧
    ∀ other ∈ earlier, ∀ taken ∈ other.matchLength text, taken < length

/-- No lexeme has a match that is not empty. -/
def Silent (lexemes : List (Lexeme K)) (text : List Char) : Prop :=
  ∀ lexeme ∈ lexemes, ∀ taken ∈ lexeme.matchLength text, taken = 0

theorem Wins.member (wins : Wins lexemes text lexeme length) : lexeme ∈ lexemes := by
  obtain ⟨earlier, later, rfl, -⟩ := wins.earliest
  exact List.mem_append_right _ List.mem_cons_self

/-- A lexeme that wins also wins behind one with only shorter matches. -/
theorem Wins.behind {first : Lexeme K} (wins : Wins lexemes text lexeme length)
    (shorter : ∀ taken ∈ first.matchLength text, taken < length) :
    Wins (first :: lexemes) text lexeme length where
  matched := wins.matched
  positive := wins.positive
  longest := List.forall_mem_cons.mpr
    ⟨fun taken matched => Nat.le_of_lt (shorter taken matched), wins.longest⟩
  earliest := by
    obtain ⟨earlier, later, rfl, beaten⟩ := wins.earliest
    exact ⟨first :: earlier, later, rfl, List.forall_mem_cons.mpr ⟨shorter, beaten⟩⟩

/-- The first lexeme wins if none of the others has a longer match. -/
theorem wins_first {first : Lexeme K} (matched : first.matchLength text = some length)
    (positive : 0 < length)
    (others : ∀ other ∈ lexemes, ∀ taken ∈ other.matchLength text, taken ≤ length) :
    Wins (first :: lexemes) text first length where
  matched := matched
  positive := positive
  longest := by
    refine List.forall_mem_cons.mpr ⟨fun taken own => ?_, others⟩
    rw [matched, Option.mem_some_iff] at own
    exact Nat.le_of_eq own.symm
  earliest := ⟨[], lexemes, rfl, fun other none => by cases none⟩

theorem silent_of_longest (none : longest text lexemes = none) : Silent lexemes text := by
  induction lexemes with
  | nil => exact fun lexeme member => by cases member
  | cons first rest ih =>
    rw [longest] at none
    refine List.forall_mem_cons.mpr ?_
    split at none
    next absent => exact ⟨fun taken own => by simp [absent] at own, ih none⟩
    next taken matched =>
      split at none
      next empty =>
        refine ⟨fun other own => ?_, ih none⟩
        rw [matched, Option.mem_some_iff] at own
        exact own ▸ empty
      next =>
        -- A match that is not empty is found, or one that is longer.
        split at none
        next => split at none <;> cases none
        next => cases none

theorem wins_of_longest (found : longest text lexemes = some (lexeme, length)) :
    Wins lexemes text lexeme length := by
  induction lexemes generalizing lexeme length with
  | nil => cases found
  | cons first rest ih =>
    rw [longest] at found
    split at found
    next absent => exact (ih found).behind fun taken own => by simp [absent] at own
    next taken matched =>
      have own {other : Nat} (among : other ∈ first.matchLength text) : other = taken := by
        rw [matched, Option.mem_some_iff] at among
        exact among.symm
      split at found
      next empty =>
        -- Any match that wins is longer than an empty one.
        refine (ih found).behind fun other among => ?_
        rw [own among, empty]
        exact (ih found).positive
      next full =>
        split at found
        next other longer others =>
          have wins := ih others
          split at found
          next beaten =>
            cases found
            exact wins.behind fun other among => own among ▸ beaten
          next =>
            -- The winner of the others may be as long, but it was declared later.
            cases found
            refine wins_first matched (Nat.pos_of_ne_zero full) fun other member taken' among => ?_
            have bounded := wins.longest other member taken' among
            omega
        next none =>
          cases found
          refine wins_first matched (Nat.pos_of_ne_zero full) fun other member taken' among => ?_
          rw [silent_of_longest none other member taken' among]
          exact Nat.zero_le _

theorem Wins.unique {lexeme' : Lexeme K} {length' : Nat} (wins : Wins lexemes text lexeme length)
    (wins' : Wins lexemes text lexeme' length') : lexeme = lexeme' ∧ length = length' := by
  obtain rfl : length = length' := Nat.le_antisymm
    (wins'.longest _ wins.member _ wins.matched) (wins.longest _ wins'.member _ wins'.matched)
  refine ⟨?_, rfl⟩
  obtain ⟨earlier, later, split, beaten⟩ := wins.earliest
  obtain ⟨earlier', later', split', beaten'⟩ := wins'.earliest
  -- If one of them were declared earlier, its match would be shorter than the other one.
  rw [split] at split'
  obtain ⟨more, rfl, onward⟩ | ⟨more, rfl, onward⟩ := List.append_eq_append_iff.mp split'
  · cases more with
    | nil => exact (List.cons.inj onward).1
    | cons first more =>
      obtain ⟨rfl, -⟩ := List.cons.inj onward
      have member : lexeme ∈ earlier ++ lexeme :: more :=
        List.mem_append_right _ List.mem_cons_self
      exact absurd (beaten' lexeme member _ wins.matched) (Nat.lt_irrefl _)
  · cases more with
    | nil => exact (List.cons.inj onward).1.symm
    | cons first more =>
      obtain ⟨rfl, -⟩ := List.cons.inj onward
      have member : lexeme' ∈ earlier' ++ lexeme' :: more :=
        List.mem_append_right _ List.mem_cons_self
      exact absurd (beaten lexeme' member _ wins'.matched) (Nat.lt_irrefl _)

/-! ### Segments -/

/-- A part of the input and the lexeme that it belongs to. -/
structure Segment (K : Type) where
  lexeme : Lexeme K
  text : List Char

variable {table : LexemeTable K}

/-- In front of so much text the lexeme wins with the text of the segment. -/
def Takes (table : LexemeTable K) (segment : Segment K) (behind : List Char) : Prop :=
  Wins table.lexemes (segment.text ++ behind) segment.lexeme segment.text.length

/-- The text is divided into segments up to `rest`. -/
inductive Segmentation (table : LexemeTable K) (rest : List Char) :
    List (Segment K) → List Char → Prop
  | nil : Segmentation table rest [] rest
  | cons {segment : Segment K} {segments : List (Segment K)} {behind : List Char} :
      table.Takes segment behind → Segmentation table rest segments behind →
      Segmentation table rest (segment :: segments) (segment.text ++ behind)

/-- The text of some segments. -/
def textOf (segments : List (Segment K)) : List Char := segments.flatMap Segment.text

theorem textOf_cons (segment : Segment K) (segments : List (Segment K)) :
    textOf (segment :: segments) = segment.text ++ textOf segments :=
  List.flatMap_cons

theorem textOf_append (segments others : List (Segment K)) :
    textOf (segments ++ others) = textOf segments ++ textOf others :=
  List.flatMap_append

theorem Segmentation.textOf_append {rest : List Char} {segments : List (Segment K)}
    (segmentation : table.Segmentation rest segments text) : textOf segments ++ rest = text := by
  induction segmentation with
  | nil => rfl
  | cons _ _ ih => rw [textOf_cons, List.append_assoc, ih]

theorem Segmentation.append {rest middle : List Char} {segments others : List (Segment K)}
    (segmentation : table.Segmentation middle segments text)
    (onward : table.Segmentation rest others middle) :
    table.Segmentation rest (segments ++ others) text := by
  induction segmentation with
  | nil => exact onward
  | cons takes _ ih => exact .cons takes ih

theorem Takes.text_ne_nil {segment : Segment K} {behind : List Char}
    (takes : table.Takes segment behind) : segment.text ≠ [] :=
  List.length_pos_iff.mp takes.positive

theorem Takes.unique {segment segment' : Segment K} {behind behind' : List Char}
    (takes : table.Takes segment behind) (takes' : table.Takes segment' behind')
    (same : segment.text ++ behind = segment'.text ++ behind') :
    segment = segment' ∧ behind = behind' := by
  rw [Takes, same] at takes
  obtain ⟨lexeme, long⟩ := takes.unique takes'
  obtain ⟨front, rest⟩ := List.append_inj same long
  cases segment
  cases segment'
  cases lexeme
  cases front
  exact ⟨rfl, rest⟩

/-- No segment can be cut off the text. -/
def Bare (table : LexemeTable K) (text : List Char) : Prop :=
  text = [] ∨ Silent table.lexemes text

theorem Takes.not_bare {segment : Segment K} {behind : List Char}
    (takes : table.Takes segment behind) : ¬ table.Bare (segment.text ++ behind) := by
  rintro (nothing | silent)
  · exact takes.text_ne_nil (List.append_eq_nil_iff.mp nothing).1
  · have empty := silent _ takes.member _ takes.matched
    exact takes.text_ne_nil (List.eq_nil_of_length_eq_zero empty)

/-- A text can be divided in one way only, as far as segments can be cut off. -/
theorem Segmentation.unique {rest rest' : List Char} {segments segments' : List (Segment K)}
    (segmentation : table.Segmentation rest segments text) (bare : table.Bare rest)
    (segmentation' : table.Segmentation rest' segments' text) (bare' : table.Bare rest') :
    segments = segments' ∧ rest = rest' := by
  -- Where one division ends, the other one cannot go on.
  induction segmentation generalizing segments' with
  | nil =>
    cases segmentation' with
    | nil => exact ⟨rfl, rfl⟩
    | cons takes' => exact absurd bare takes'.not_bare
  | @cons segment segments behind takes _ ih =>
    generalize whole : segment.text ++ behind = text at segmentation'
    cases segmentation' with
    | nil => exact absurd bare' (whole ▸ takes.not_bare)
    | cons takes' onward' =>
      obtain ⟨rfl, rfl⟩ := takes.unique takes' whole
      obtain ⟨rfl, rfl⟩ := ih onward'
      exact ⟨rfl, rfl⟩

end LexemeTable

end Lookahead
