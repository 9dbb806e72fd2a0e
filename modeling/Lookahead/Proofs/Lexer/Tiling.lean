import Lookahead.Lexer.Automaton.Basic

/-!
# Tilings of the input

What an automaton does to an input is described here without places and bounds. The input is
divided into tiles, from left to right: characters that are passed over, and lexemes. A lexeme goes
as far as the automaton can follow it. So there is only one way to lay the tiles, up to the end of
the input or to a text at which the automaton gets stuck without a lexeme.

Main statement: `Automaton.Tiling.unique`.
-/

namespace Lookahead

namespace Automaton

variable {K : Type} {automaton : Automaton K}

/-! ### Following transitions -/

/-- The automaton goes from one state to another one over a text. -/
inductive Path (automaton : Automaton K) : Nat → List Char → Nat → Prop
  | nil {state : Nat} : Path automaton state [] state
  | cons {state target final : Nat} {c : Char} {text : List Char} :
      automaton.next? state c = some target → Path automaton target text final →
      Path automaton state (c :: text) final

/-- There is no transition from the state on the first character of the text, if it has one. -/
def Stuck (automaton : Automaton K) (state : Nat) (text : List Char) : Prop :=
  ∀ c ∈ text.head?, automaton.next? state c = none

theorem walk_path (automaton : Automaton K) (state : Nat) (text : List Char) :
    let walk := automaton.walk state text
    walk.lexeme ++ walk.rest = text ∧ automaton.Path state walk.lexeme walk.state ∧
      automaton.Stuck walk.state walk.rest := by
  induction text generalizing state with
  | nil => exact ⟨rfl, .nil, fun c member => by cases member⟩
  | cons c rest ih =>
    rw [walk]
    cases onward : automaton.next? state c with
    | some target =>
      obtain ⟨whole, path, stuck⟩ := ih target
      exact ⟨congrArg (c :: ·) whole, .cons onward path, stuck⟩
    | none =>
      refine ⟨rfl, .nil, fun first member => ?_⟩
      cases member
      exact onward

theorem Path.unique {state final final' : Nat} {text behind text' behind' : List Char}
    (path : automaton.Path state text final) (stuck : automaton.Stuck final behind)
    (path' : automaton.Path state text' final') (stuck' : automaton.Stuck final' behind')
    (same : text ++ behind = text' ++ behind') :
    text = text' ∧ final = final' ∧ behind = behind' := by
  induction path generalizing text' with
  | nil =>
    cases path' with
    | nil => exact ⟨rfl, rfl, same⟩
    | cons onward =>
      -- The other path goes on where this one is stuck.
      rw [List.nil_append] at same
      have halted := stuck _ (by rw [same]; rfl)
      rw [onward] at halted
      cases halted
  | cons onward _ ih =>
    cases path' with
    | nil =>
      rw [List.nil_append] at same
      have halted := stuck' _ (by rw [← same]; rfl)
      rw [onward] at halted
      cases halted
    | cons onward' path' =>
      obtain ⟨rfl, onwards⟩ := List.cons.inj same
      -- The first transition that accepts a character is taken, so the target is the same.
      cases onward.symm.trans onward'
      obtain ⟨rfl, rfl, rfl⟩ := ih stuck path' onwards
      exact ⟨rfl, rfl, rfl⟩

/-- From its first state the automaton reads `text`, and in the state `final` it is stuck in front
of `behind`. Nothing is passed over before that. -/
structure Reads (automaton : Automaton K) (text : List Char) (final : Nat) (behind : List Char) :
    Prop where
  begins : ∃ c, (text ++ behind).head? = some c ∧ automaton.ignores c = false
  path : automaton.Path 0 text final
  stuck : automaton.Stuck final behind

theorem reads_walk {c : Char} (begins : automaton.ignores c = false) (rest : List Char) :
    let walk := automaton.walk 0 (c :: rest)
    automaton.Reads walk.lexeme walk.state walk.rest ∧ walk.lexeme ++ walk.rest = c :: rest := by
  obtain ⟨whole, path, stuck⟩ := automaton.walk_path 0 (c :: rest)
  exact ⟨⟨⟨c, by rw [whole]; rfl, begins⟩, path, stuck⟩, whole⟩

theorem Reads.unique {text behind text' behind' : List Char} {final final' : Nat}
    (reads : automaton.Reads text final behind) (reads' : automaton.Reads text' final' behind')
    (same : text ++ behind = text' ++ behind') :
    text = text' ∧ final = final' ∧ behind = behind' :=
  reads.path.unique reads.stuck reads'.path reads'.stuck same

/-! ### Tiles -/

/-- A part of the input: a character that is passed over, or a lexeme and how it ended. -/
inductive Tile (K : Type) where
  | ignored (c : Char)
  | lexeme (text : List Char) (ending : Ending K)

def Tile.text : Tile K → List Char
  | .ignored c => [c]
  | .lexeme text _ => text

/-- The tile can be laid where so much text is behind it: an ignored character anywhere, a lexeme
only if it is not empty, leads to a terminal state and cannot be longer. -/
def Fits (automaton : Automaton K) (behind : List Char) : Tile K → Prop
  | .ignored c => automaton.ignores c = true
  | .lexeme text ending => text ≠ [] ∧
      ∃ final, automaton.Reads text final behind ∧ automaton.ending? final = some ending

/-- The automaton gets stuck in front of `behind` without a lexeme: it has read nothing, or the
state is not terminal. -/
def Fails (automaton : Automaton K) (text behind : List Char) : Prop :=
  ∃ final, automaton.Reads text final behind ∧ (text = [] ∨ automaton.ending? final = none)

/-- The text is laid with tiles up to `rest`. -/
inductive Tiling (automaton : Automaton K) (rest : List Char) :
    List (Tile K) → List Char → Prop
  | nil : Tiling automaton rest [] rest
  | cons {tile : Tile K} {tiles : List (Tile K)} {behind : List Char} :
      automaton.Fits behind tile → Tiling automaton rest tiles behind →
      Tiling automaton rest (tile :: tiles) (tile.text ++ behind)

/-- The text under some tiles. -/
def textOf (tiles : List (Tile K)) : List Char := tiles.flatMap Tile.text

theorem Tiling.textOf_append {rest text : List Char} {tiles : List (Tile K)}
    (tiling : automaton.Tiling rest tiles text) : textOf tiles ++ rest = text := by
  induction tiling with
  | nil => rfl
  | cons _ _ ih => rw [textOf, List.flatMap_cons, List.append_assoc, ← textOf, ih]

theorem Tiling.append {rest middle text : List Char} {tiles others : List (Tile K)}
    (tiling : automaton.Tiling middle tiles text) (onward : automaton.Tiling rest others middle) :
    automaton.Tiling rest (tiles ++ others) text := by
  induction tiling with
  | nil => exact onward
  | cons fits _ ih => exact .cons fits ih

theorem textOf_singleton (tile : Tile K) : textOf [tile] = tile.text :=
  List.flatMap_singleton _ _

/-! ### One way to lay the tiles -/

theorem Fits.text_ne_nil {behind : List Char} {tile : Tile K} (fits : automaton.Fits behind tile) :
    tile.text ≠ [] := by
  cases tile with
  | ignored c => exact List.cons_ne_nil c []
  | lexeme text ending => exact fits.1

/-- An ignored character does not begin a lexeme. -/
theorem Reads.not_ignored {text behind other : List Char} {final : Nat} {c : Char}
    (reads : automaton.Reads text final behind) (ignored : automaton.ignores c = true) :
    c :: other ≠ text ++ behind := by
  intro same
  obtain ⟨first, begins, kept⟩ := reads.begins
  rw [← same] at begins
  cases begins
  rw [ignored] at kept
  cases kept

/-- In front of a text there is one tile at most. -/
theorem Fits.unique {behind behind' : List Char} {tile tile' : Tile K}
    (fits : automaton.Fits behind tile) (fits' : automaton.Fits behind' tile')
    (same : tile.text ++ behind = tile'.text ++ behind') : tile = tile' ∧ behind = behind' := by
  cases tile with
  | ignored c =>
    cases tile' with
    | ignored c' =>
      obtain ⟨rfl, rfl⟩ := List.cons.inj same
      exact ⟨rfl, rfl⟩
    | lexeme text' ending' =>
      obtain ⟨-, final', reads', -⟩ := fits'
      exact absurd same (reads'.not_ignored fits)
  | lexeme text ending =>
    obtain ⟨-, final, reads, ended⟩ := fits
    cases tile' with
    | ignored c' => exact absurd same.symm (reads.not_ignored fits')
    | lexeme text' ending' =>
      obtain ⟨-, final', reads', ended'⟩ := fits'
      obtain ⟨rfl, rfl, rfl⟩ := reads.unique reads' same
      cases ended.symm.trans ended'
      exact ⟨rfl, rfl⟩

/-- No tile can be laid at the front of the text. -/
def Bare (automaton : Automaton K) (text : List Char) : Prop :=
  ∀ tile behind, automaton.Fits behind tile → tile.text ++ behind ≠ text

theorem bare_nil : automaton.Bare [] := by
  intro tile behind fits none
  exact fits.text_ne_nil (List.append_eq_nil_iff.mp none).1

theorem Fails.bare {text behind : List Char} (fails : automaton.Fails text behind) :
    automaton.Bare (text ++ behind) := by
  obtain ⟨final, reads, broken⟩ := fails
  intro tile other fits same
  cases tile with
  | ignored c => exact reads.not_ignored fits same
  | lexeme lexeme ending =>
    obtain ⟨full, final', reads', ended⟩ := fits
    obtain ⟨rfl, rfl, -⟩ := reads'.unique reads same
    rcases broken with empty | endless
    · exact full empty
    · rw [ended] at endless
      cases endless

/-- A text can be laid with tiles in one way only, as far as tiles can be laid. -/
theorem Tiling.unique {rest rest' text : List Char} {tiles tiles' : List (Tile K)}
    (tiling : automaton.Tiling rest tiles text) (bare : automaton.Bare rest)
    (tiling' : automaton.Tiling rest' tiles' text) (bare' : automaton.Bare rest') :
    tiles = tiles' ∧ rest = rest' := by
  -- Where one of the tilings ends, the other one cannot go on.
  induction tiling generalizing tiles' with
  | nil =>
    cases tiling' with
    | nil => exact ⟨rfl, rfl⟩
    | cons fits' => exact absurd rfl (bare _ _ fits')
  | @cons tile tiles behind fits _ ih =>
    generalize whole : tile.text ++ behind = text at tiling'
    cases tiling' with
    | nil => exact absurd whole (bare' _ _ fits)
    | cons fits' onward' =>
      obtain ⟨rfl, rfl⟩ := fits.unique fits' whole
      obtain ⟨rfl, rfl⟩ := ih onward'
      exact ⟨rfl, rfl⟩

end Automaton

end Lookahead
