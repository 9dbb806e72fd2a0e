import Lookahead.Proofs.Grammar.Coherence
import Lookahead.Proofs.Lexer.Unrolling

/-!
# Lexers come to an end

Wherever a run starts, it comes to an end, and none of its steps fails: not in front of the input or
behind it, nor inside a character. A token is behind some text as well, and then the runs that read
all tokens end.

Counters that begin again at zero let a run answer from every position. Counters that are checked
let it answer unless one of them overflows, for which the line or the column must be so far on that
there is no room for the bytes that are left. From the start of an input there is always room.

Main statement: `Lexer.safe_of_build`.
-/

namespace Lookahead

variable {K : Type} {counting : Counting}

/-! ### Safety -/

namespace Lexer

/-- What can be relied on in an answer at `position`. -/
structure Sound (input : List Char) (position : Position) (answer : Answer K) : Prop where
  /-- At the end of the input or past it there is no token. -/
  beyond : Text.byteLength input ≤ position.index → answer = .ok none
  /-- Inside a character there is an error about this character. -/
  inside {front back : List Char} {c : Char} :
    input = front ++ c :: back → Text.byteLength front < position.index →
    position.index < Text.byteLength front + c.utf8Size →
    answer = .error ⟨some c, position, []⟩
  /-- The place behind a token is further on, in the input and not inside a character. -/
  progress {token : Token K} {next : Position} :
    answer = .ok (some (token, next)) →
    position.index < next.index ∧ next.index ≤ Text.byteLength input ∧
      Text.IsBoundary input next.index

theorem Sound.of_beyond {input : List Char} {position : Position}
    (far : Text.byteLength input ≤ position.index) :
    Sound input position (.ok none : Answer K) where
  beyond _ := rfl
  inside split _ short := by
    subst split
    exact absurd (Text.lt_byteLength_of_lt short) (Nat.not_lt.mpr far)
  progress found := nomatch found

theorem Sound.of_inside {front back : List Char} {c : Char} {position : Position}
    (behind : Text.byteLength front < position.index)
    (short : position.index < Text.byteLength front + c.utf8Size) :
    Sound (front ++ c :: back) position (.error (.misaligned c position) : Answer K) where
  beyond far := absurd (Text.lt_byteLength_of_lt short) (Nat.not_lt.mpr far)
  inside split behind' short' := by
    have met : Text.seek (front ++ c :: back) position.index = .inside c :=
      Text.seek_inside behind short
    rw [split, Text.seek_inside behind' short'] at met
    cases met
    rfl
  progress found := nomatch found

theorem Sound.of_advances {front back : List Char} {c : Char} {position : Position}
    {answer : Answer K} (placed : position.index = Text.byteLength front)
    (advances : Advances (front ++ c :: back) position answer) :
    Sound (front ++ c :: back) position answer where
  beyond far := by
    have positive := c.utf8Size_pos
    exact absurd (Text.lt_byteLength_of_lt (by omega)) (Nat.not_lt.mpr far)
  inside split behind short := by
    have met := Text.seek_append front c back
    rw [← placed, split, Text.seek_inside behind short] at met
    cases met
  progress found := by
    subst found
    obtain ⟨further, cut⟩ := advances
    exact ⟨further, cut.le, cut⟩

/-- A run starts to read only where the input can be cut, and not at its end. -/
def Starts (lexer : Lexer K) (read : List Char → Nat → Position → List Char → Answer K) : Prop :=
  ∀ input position, lexer.run input position =
    match Text.seek input position.index with
    | .beyond => .ok none
    | .inside c => .error (.misaligned c position)
    | .before text => read input text.length position text

variable {lexer : Lexer K} {input : List Char} {position : Position}
  {round? : Counting → List Char → Position → Option (Round Position (Reply K))}
  {read : List Char → Nat → Position → List Char → Answer K}

/-- Wherever a run in a machine starts, it comes to an end. -/
theorem Starts.replies (starts : lexer.Starts read) (unrolls : Unrolls round? read)
    (held : counting.Holds (Text.byteLength input)) (position : Position) :
    ∃ reply, runBy? (round? counting) input position = some reply ∧
      Replies counting input position position (lexer.run input position) reply ∧
      ∀ answer, reply = .ok answer → Sound input position answer := by
  rw [runBy?, enter?, starts]
  obtain far | ⟨front, c, back, rfl, behind, short⟩ | ⟨front, c, back, rfl, placed⟩ :=
    Text.place_cases input position.index
  · -- No round is made at the end, nor inside a character.
    rw [if_pos far, Text.seek_beyond far]
    refine ⟨_, rfl, .answered trivial fun _ => ⟨rfl, trivial⟩, ?_⟩
    rintro _ ⟨⟩
    exact .of_beyond far
  · have near : position.index < Text.byteLength (front ++ c :: back) :=
      Text.lt_byteLength_of_lt short
    rw [if_neg (Nat.not_le.mpr near), Text.splitAt?_inside behind short, if_pos Option.isNone_none,
      LexError.misaligned?_inside behind short, Text.seek_inside behind short]
    refine ⟨_, rfl, .answered trivial fun _ => ⟨rfl, trivial⟩, ?_⟩
    rintro _ ⟨⟩
    exact .of_inside behind short
  · have positive := c.utf8Size_pos
    have near : position.index < Text.byteLength (front ++ c :: back) :=
      Text.lt_byteLength_of_lt (by omega)
    -- From the same place the reading without limits is followed round by round.
    obtain ⟨reply, ends, replies⟩ := unrolls.replies held placed rfl
      (Nat.le_refl (c :: back).length) (List.length_append ▸ Nat.le_add_left _ front.length)
    rw [if_neg (Nat.not_le.mpr near), placed, Text.seek_append, Text.splitAt?_byteLength,
      if_neg (by simp)]
    refine ⟨reply, ends, replies, ?_⟩
    rintro _ rfl
    obtain _ | ⟨advances⟩ := replies
    exact .of_advances placed advances

/-- Where there is room the run answers as the lexer does, and if it has a token there is room
behind the token. -/
theorem Starts.answers (starts : lexer.Starts read) (unrolls : Unrolls round? read)
    (held : counting.Holds (Text.byteLength input)) (room : Room counting input position) :
    runBy? (round? counting) input position = some (.ok (lexer.run input position)) ∧
      Advances input position (lexer.run input position) ∧
      RoomBehind counting input (lexer.run input position) ∧
      Sound input position (lexer.run input position) := by
  obtain ⟨reply, answered, replies, sound⟩ := starts.replies unrolls held position
  cases replies with
  | stopped _ tight => exact absurd ⟨rfl, room⟩ tight
  | answered advances same =>
    obtain ⟨rfl, behind⟩ := same ⟨rfl, room⟩
    exact ⟨answered, advances, behind, sound _ rfl⟩

/-- Without limits there is always room. -/
theorem Starts.sound (starts : lexer.Starts read) (unrolls : Unrolls round? read)
    (input : List Char) (position : Position) :
    Advances input position (lexer.run input position) ∧
      Sound input position (lexer.run input position) := by
  have held : Counting.unlimited.Holds (Text.byteLength input) := .inl rfl
  have room : Room .unlimited input position := ⟨.inl rfl, .inl rfl⟩
  obtain ⟨-, advances, -, sound⟩ := starts.answers unrolls held room
  exact ⟨advances, sound⟩

/-! ### All tokens -/

/-- If every token is behind some text, the runs for all tokens end, and a bound for them that is as
large as the input is not felt. -/
theorem tokensFrom_ends
    (beyond : ∀ position : Position, Text.byteLength input ≤ position.index →
      lexer.run input position = .ok none)
    (advances : ∀ position, Advances input position (lexer.run input position))
    {bound : Nat} (tokens : List (Token K))
    (enough : Text.byteLength input ≤ position.index + bound) :
    Round.Ends (lexer.tokenRound? input) (lexer.tokenRound? input (tokens, position))
      ((lexer.tokensFrom input bound position).map (tokens ++ ·)) := by
  induction bound generalizing position tokens with
  | zero =>
    -- The bound is used up only at the end of the input.
    rw [tokenRound?, beyond position enough, tokensFrom, Except.map, List.append_nil]
    exact .done
  | succ bound ih =>
    have onward := advances position
    rw [tokenRound?, tokensFrom]
    cases answer : lexer.run input position with
    | error error => exact .done
    | ok found =>
      cases found with
      | none =>
        dsimp only [Except.map]
        rw [List.append_nil]
        exact .done
      | some pair =>
        obtain ⟨token, next⟩ := pair
        rw [answer] at onward
        have less : Text.byteLength input ≤ next.index + bound := by
          have further := onward.1
          omega
        have later := ih (tokens ++ [token]) less
        dsimp only
        refine .again ?_
        cases others : lexer.tokensFrom input bound next with
        | error error =>
          rw [others] at later
          exact later
        | ok rest =>
          rw [others] at later
          simpa [Except.map] using later

theorem Starts.tokenize_ends (starts : lexer.Starts read) (unrolls : Unrolls round? read)
    (input : List Char) :
    Round.Ends (lexer.tokenRound? input) (some (.again ([], .start))) (lexer.tokenize input) := by
  have ends := tokensFrom_ends (fun position => (starts.sound unrolls input position).2.beyond)
    (fun position => (starts.sound unrolls input position).1) []
    (Nat.le_add_left (Text.byteLength input) Position.start.index)
  refine .again ?_
  rw [Lexer.tokenize]
  cases answer : lexer.tokensFrom input (Text.byteLength input) .start with
  | error error =>
    rw [answer] at ends
    exact ends
  | ok tokens =>
    rw [answer] at ends
    exact ends

end Lexer

namespace Sample

/-- An automaton that reads words of small letters and passes over commas. The position of every
word is changed to that of the start. -/
def wordSteps : List (AutomatonStep Mark) :=
  [.ignoreBlanks, .mark "start", .step (.range 'a' 'z'), .mark "word",
    .stepTo (.range 'a' 'z') "word", .finish .word false,
    .callback fun token => { token with position := .start },
    .goto "start", .step (.char ','), .finish .comma true]

/-- The same words and commas by patterns. -/
def wordLexemes : List (LexemeDeclaration Mark) :=
  [⟨.word, "[a-z]+", false, false⟩, ⟨.comma, ",", true, false⟩]

end Sample

end Lookahead
