import Lookahead.Proofs.Grammar.Coherence
import Lookahead.Proofs.Lexer.Accuracy

/-!
# Tokens of a longer input

Where a lexeme ends is decided by the character behind it. So what is read of an input does not
change if more text is put behind the input, as long as there was such a character: a stream of the
longer input begins with the same tokens, save perhaps the last one, whose lexeme may go on.

Main statement: `Automaton.gives_append`.
-/

namespace Lookahead

namespace TokenStream

variable {K : Type}

/-- Asked again and again, the stream gives the tokens one after the other, and then it is the
second stream. -/
inductive Gives : TokenStream K → List (Token K) → TokenStream K → Prop
  | nil {stream} : Gives stream [] stream
  | cons {stream onward behind token tokens} :
      stream.next = (some (.ok token), onward) → Gives onward tokens behind →
      Gives stream (token :: tokens) behind

theorem Gives.exists_next {stream behind : TokenStream K} {tokens : List (Token K)}
    (gives : Gives stream tokens behind) (nonempty : tokens ≠ []) :
    ∃ token onward, stream.next = (some (.ok token), onward) := by
  cases gives with
  | nil => exact absurd rfl nonempty
  | cons given _ => exact ⟨_, _, given⟩

/-- The stream at the same place of an input with more text at its end. -/
def extend (stream : TokenStream K) (more : List Char) : TokenStream K :=
  { stream with input := stream.input ++ more }

end TokenStream

namespace Automaton

variable {K : Type} {automaton : Automaton K} {token : Token K} {next : Position}
  {front lexeme behind : List Char} {ending : Ending K}

/-! ### Lexemes -/

/-- A lexeme that is followed by a character is the same lexeme whatever comes behind that. -/
theorem Fits.append (fits : automaton.Fits behind (.lexeme lexeme ending))
    (followed : behind ≠ []) (more : List Char) :
    automaton.Fits (behind ++ more) (.lexeme lexeme ending) := by
  obtain ⟨full, final, ⟨begins, path, stuck⟩, ended⟩ := fits
  refine ⟨full, final, ⟨?_, path, ?_⟩, ended⟩
  · rwa [← List.append_assoc, List.head?_append_of_ne_nil _ (by simp [full])]
  · rwa [Stuck, List.head?_append_of_ne_nil _ followed]

/-- What a reading does at a lexeme behind characters that are passed over. -/
theorem Fits.read_eq (fits : automaton.Fits behind (.lexeme lexeme ending)) {passed : List Char}
    (ignored : ∀ c ∈ passed, automaton.ignores c = true) (input front : List Char) (bound : Nat) :
    automaton.read input (bound + 1) (automaton.place front) (passed ++ (lexeme ++ behind)) =
      if ending.skipped then
        automaton.read input bound (automaton.place (front ++ passed ++ lexeme)) behind
      else .ok (some (ending.emit lexeme (automaton.place (front ++ passed)),
        automaton.place (front ++ passed ++ lexeme))) := by
  obtain ⟨full, final, reads, ended⟩ := fits
  obtain ⟨c, begins, shown⟩ := reads.begins
  obtain ⟨rest, whole⟩ := List.head?_eq_some_iff.mp begins
  have nonempty : ¬ lexeme.isEmpty := by simpa using full
  have stays : ¬ automaton.ignores c := by simp [shown]
  -- The walk ends where the lexeme does, since there is one way to follow the transitions.
  obtain ⟨walked, split⟩ := reads_walk shown rest
  obtain ⟨same, state, left⟩ := walked.unique reads (split.trans whole.symm)
  rw [read, List.takeWhile_append_of_pos ignored, List.dropWhile_append_of_pos ignored, whole,
    List.takeWhile_cons_of_neg stays, List.dropWhile_cons_of_neg stays, List.append_nil,
    ← place_append]
  dsimp only
  rw [same, state, left, if_neg nonempty, ended, ← place_append]

/-- A token is read only where there is a lexeme behind characters that are passed over. -/
theorem exists_fits_of_read {input text : List Char} {bound : Nat}
    (found : automaton.read input (bound + 1) (automaton.place front) text =
      .ok (some (token, next))) :
    ∃ passed lexeme behind ending, text = passed ++ (lexeme ++ behind) ∧
      (∀ c ∈ passed, automaton.ignores c = true) ∧
      automaton.Fits behind (.lexeme lexeme ending) := by
  have split := text.takeWhile_append_dropWhile (p := automaton.ignores)
  have shown := text.head?_dropWhile_not automaton.ignores
  rw [read] at found
  generalize text.dropWhile automaton.ignores = kept at split shown found
  cases kept with
  | nil => cases found
  | cons c rest =>
    obtain ⟨reads, whole⟩ := reads_walk shown rest
    dsimp only at found
    generalize automaton.walk 0 (c :: rest) = walk at reads whole found
    split at found
    next => cases found
    next ending ended =>
      refine ⟨text.takeWhile automaton.ignores, walk.lexeme, walk.rest, ending, ?_,
        fun c member => List.mem_takeWhile_imp member, reads.fits ended⟩
      rw [whole, split]

theorem read_nil (automaton : Automaton K) (input : List Char) (bound : Nat)
    (position : Position) : automaton.read input bound position [] = .ok none := by
  cases bound <;> rfl

/-! ### One reading -/

/-- The token comes from a lexeme of the input. The next reading starts right behind the lexeme, in
front of `rest`. -/
def EmitsBefore (automaton : Automaton K) (input rest : List Char) (token : Token K)
    (next : Position) : Prop :=
  ∃ front lexeme ending, input = front ++ (lexeme ++ rest) ∧
    automaton.Fits rest (.lexeme lexeme ending) ∧ ¬ ending.skipped ∧
    token = ending.emit lexeme (automaton.place front) ∧
    next = automaton.place (front ++ lexeme)

/-- A token that is read in front of more text is read in front of any longer text too. -/
theorem read_append {input text : List Char} {bound bound' : Nat}
    (found : automaton.read input bound (automaton.place front) text = .ok (some (token, next)))
    (enough : bound ≤ bound') (input' more : List Char) :
    ∃ rest, automaton.EmitsBefore (front ++ text) rest token next ∧ (rest ≠ [] →
      automaton.read input' bound' (automaton.place front) (text ++ more) =
        .ok (some (token, next))) := by
  induction bound generalizing front text bound' with
  | zero => cases found
  | succ bound ih =>
    obtain ⟨bound', rfl⟩ := Nat.exists_eq_add_of_le' (Nat.one_le_of_lt enough)
    obtain ⟨passed, lexeme, behind, ending, rfl, ignored, fits⟩ := exists_fits_of_read found
    have again (followed : behind ≠ []) := (fits.append followed more).read_eq ignored input' front
    rw [fits.read_eq ignored] at found
    split at found
    next skipped =>
      obtain ⟨rest, emits, onward⟩ := ih found (Nat.le_of_succ_le_succ enough)
      refine ⟨rest, ?_, fun followed => ?_⟩
      · simpa only [List.append_assoc] using emits
      · -- A token was found behind the skipped lexeme, so the text does not end with the lexeme.
        have longer : behind ≠ [] := by
          rintro rfl
          rw [read_nil] at found
          cases found
        rw [List.append_assoc, List.append_assoc, again longer, if_pos skipped]
        exact onward followed
    next kept =>
      cases found
      refine ⟨behind, ⟨front ++ passed, lexeme, ending, ?_, fits, kept, rfl, rfl⟩,
        fun followed => ?_⟩
      · simp only [List.append_assoc]
      · rw [List.append_assoc, List.append_assoc, again followed, if_neg kept]

theorem run_append {text : List Char}
    (found : automaton.run (front ++ text) (automaton.place front) = .ok (some (token, next)))
    (more : List Char) :
    ∃ rest, automaton.EmitsBefore (front ++ text) rest token next ∧ (rest ≠ [] →
      automaton.run (front ++ text ++ more) (automaton.place front) =
        .ok (some (token, next))) := by
  have index : (automaton.place front).index = Text.byteLength front :=
    Position.index_start_advanceOver _ front
  rw [run, index] at found
  rw [run, index, List.append_assoc front text more]
  cases text with
  | nil =>
    rw [List.append_nil, Text.seek_byteLength] at found
    cases found
  | cons c rest =>
    -- The bound is the length of what is left, so it only grows with the input.
    rw [Text.seek_append] at found
    rw [List.cons_append, Text.seek_append]
    exact read_append found (by simp) _ more

/-! ### Streams -/

/-- A stream that has come to the end of its input has no more tokens. -/
theorem Follows.next_of_end {input : List Char} {stream : TokenStream K}
    (follows : automaton.Follows input stream) (ended : stream.position = automaton.place input)
    (onward : TokenStream K) : stream.next ≠ (some (.ok token), onward) := by
  have nothing : automaton.run input (automaton.place input) = .ok none := by
    rw [run, Automaton.place, Position.index_start_advanceOver, Text.seek_byteLength]
  obtain ⟨lexer, source, position, finished⟩ := stream
  obtain ⟨rfl, rfl, -⟩ := follows
  dsimp only at ended nothing
  rw [ended]
  cases finished <;> simp [TokenStream.next, Automaton.lexer, nothing]

/-- What a stream gives, the stream of a longer input gives as well, unless the lexeme is the last
of the shorter input. -/
theorem Follows.next_append {input : List Char} {stream onward : TokenStream K}
    (follows : automaton.Follows input stream)
    (given : stream.next = (some (.ok token), onward)) (more : List Char) :
    ∃ rest, automaton.EmitsBefore input rest token onward.position ∧ (rest ≠ [] →
      (stream.extend more).next = (some (.ok token), onward.extend more)) := by
  obtain ⟨lexer, source, position, finished⟩ := stream
  obtain ⟨rfl, rfl, front, behind, rfl, rfl⟩ := follows
  cases finished with
  | true => cases given
  | false =>
    simp only [TokenStream.next, Automaton.lexer] at given
    cases answer : automaton.run (front ++ behind) (automaton.place front) with
    | error error => simp [answer] at given
    | ok found =>
      cases found with
      | none => simp [answer] at given
      | some pair =>
        obtain ⟨token', next⟩ := pair
        obtain ⟨rest, emits, longer⟩ := run_append answer more
        simp only [answer, Bool.false_eq_true, if_false] at given
        cases given
        refine ⟨rest, emits, fun followed => ?_⟩
        simp only [TokenStream.next, TokenStream.extend, Automaton.lexer, longer followed,
          Bool.false_eq_true, if_false]

/-- The tokens that a stream gives are given by the stream of a longer input too, the last one if
its lexeme does not reach to the end of the shorter input. -/
theorem Follows.gives_longer {input : List Char} {stream behind : TokenStream K}
    (follows : automaton.Follows input stream) {tokens : List (Token K)} {last : Token K}
    (given : stream.Gives (tokens ++ [last]) behind) (more : List Char) :
    ∃ rest, automaton.EmitsBefore input rest last behind.position ∧
      (∃ onward, (stream.extend more).Gives tokens onward) ∧
      (rest ≠ [] → (stream.extend more).Gives (tokens ++ [last]) (behind.extend more)) := by
  induction tokens generalizing stream with
  | nil =>
    obtain _ | ⟨given, ended⟩ := given
    cases ended
    obtain ⟨rest, emits, longer⟩ := follows.next_append given more
    exact ⟨rest, emits, ⟨_, .nil⟩, fun followed => .cons (longer followed) .nil⟩
  | cons token tokens ih =>
    obtain _ | ⟨given, later⟩ := given
    rename_i onward
    obtain ⟨rest, ⟨front, lexeme, ending, split, -, -, -, next⟩, longer⟩ :=
      follows.next_append given more
    have onwards : automaton.Follows input onward := by
      have behind := follows.next.2
      rwa [given] at behind
    -- The lexeme does not reach to the end, since there is a token behind it.
    have followed : rest ≠ [] := by
      rintro rfl
      rw [List.append_nil] at split
      rw [← split] at next
      obtain ⟨token', onward', given'⟩ := later.exists_next (by simp)
      exact onwards.next_of_end next onward' given'
    obtain ⟨rest', emits', ⟨other, first⟩, all⟩ := ih onwards later
    exact ⟨rest', emits', ⟨other, .cons (longer followed) first⟩,
      fun followed' => .cons (longer followed) (all followed')⟩

/-- If a stream of the tokens of an input gives some tokens, then a stream of a longer input gives
all of them but the last one first. It gives the last one too if the lexeme that it comes from does
not reach to the end of the shorter input. -/
theorem gives_append (automaton : Automaton K) (input more : List Char) {tokens : List (Token K)}
    {last : Token K} {behind : TokenStream K}
    (given : (TokenStream.ofInput automaton.lexer input).Gives (tokens ++ [last]) behind) :
    let longer := TokenStream.ofInput automaton.lexer (input ++ more)
    (∃ onward, longer.Gives tokens onward) ∧
    ∃ front lexeme rest ending, input = front ++ (lexeme ++ rest) ∧
      automaton.Fits rest (.lexeme lexeme ending) ∧
      last = ending.emit lexeme (automaton.place front) ∧
      behind.position = automaton.place (front ++ lexeme) ∧
      (rest ≠ [] → longer.Gives (tokens ++ [last]) (behind.extend more)) := by
  intro longer
  have follows := automaton.follows_drop input 0
  obtain ⟨rest, ⟨front, lexeme, ending, split, fits, -, made, next⟩, first, all⟩ :=
    follows.gives_longer given more
  exact ⟨first, front, lexeme, rest, ending, split, fits, made, next, all⟩

end Automaton

namespace Sample

/-- Words of small letters, between which blanks and commas are passed over. -/
def words : Automaton Mark where
  states := [⟨none, [⟨.char ',', 1⟩, ⟨.range 'a' 'z', 2⟩], none⟩,
    ⟨none, [], some ⟨.comma, true, none⟩⟩,
    ⟨none, [⟨.range 'a' 'z', 2⟩], some ⟨.word, false, none⟩⟩]
  ignored := [' ']
  ignoresLineEnds := false
  lineBreak := '\n'

end Sample

/-- Both words of `ab, c ` are words of `ab, c de` too, since there is a blank behind each. -/
theorem Automaton.gives_append_words :
    let tokens : List (Token Sample.Mark) :=
      [⟨.word, "ab".toList, ⟨0, 1, 1⟩⟩, ⟨.word, "c".toList, ⟨4, 1, 5⟩⟩]
    ∃ behind, (TokenStream.ofInput Sample.words.lexer "ab, c ".toList).Gives tokens behind ∧
      (TokenStream.ofInput Sample.words.lexer "ab, c de".toList).Gives tokens
        (behind.extend "de".toList) := by
  intro tokens
  have given : (TokenStream.ofInput Sample.words.lexer "ab, c ".toList).Gives
      ([tokens[0]] ++ [tokens[1]]) ⟨Sample.words.lexer, "ab, c ".toList, ⟨5, 1, 6⟩, false⟩ :=
    .cons rfl (.cons rfl .nil)
  obtain ⟨-, front, lexeme, rest, ending, split, -, -, next, all⟩ :=
    Sample.words.gives_append "ab, c ".toList "de".toList given
  refine ⟨_, given, all ?_⟩
  rintro rfl
  rw [List.append_nil] at split
  rw [← split] at next
  cases next

end Lookahead
