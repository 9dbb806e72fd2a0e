import Lookahead.Lexer.Automaton.Builder
import Lookahead.Proofs.Grammar.Coherence
import Lookahead.Proofs.Lexer.Place
import Lookahead.Proofs.Lexer.Tiling

/-!
# Tokens are the lexemes of a tiling

Reading token by token and place by place lays the tiles of the input one after the other. Where
the input can be tiled to its end, its tokens are those of the lexemes that are not skipped, each at
the place where its tile begins. If not, the tiles lead to a text at which the automaton fails, and
the error is at the place where it gets stuck.

Main statements: `Automaton.run_answers` and `Automaton.tokenize_tiling`.
-/

namespace Lookahead

variable {K : Type}

theorem Ending.emit_eq (ending : Ending K) (text : List Char) (position : Position) :
    ending.emit text position = ending.callback.getD id ⟨ending.kind, text, position⟩ := by
  rw [emit]
  cases ending.callback <;> rfl

namespace Automaton

variable {automaton : Automaton K}

/-! ### The tokens of tiles -/

/-- The token of a tile that begins at `position`: the kind of the ending, the text of the lexeme
and the position, changed by the callback if the ending has one. -/
def Tile.token? (position : Position) : Tile K → Option (Token K)
  | .ignored _ => none
  | .lexeme text ending =>
    if ending.skipped then none
    else some (ending.callback.getD id ⟨ending.kind, text, position⟩)

/-- The place behind `front`, the text from the start of the input. -/
def place (automaton : Automaton K) (front : List Char) : Position :=
  Position.start.advanceOver automaton.lineBreak front

/-- The tokens of the tiles behind `front`, each with the place where its tile begins. -/
def tokensOf (automaton : Automaton K) (front : List Char) : List (Tile K) → List (Token K)
  | [] => []
  | tile :: tiles =>
    (tile.token? (automaton.place front)).toList ++ tokensOf automaton (front ++ tile.text) tiles

theorem place_append (automaton : Automaton K) (front text : List Char) :
    automaton.place (front ++ text) =
      (automaton.place front).advanceOver automaton.lineBreak text :=
  Position.advanceOver_append _ _ _ _

theorem tokensOf_append (automaton : Automaton K) (front : List Char)
    (tiles others : List (Tile K)) :
    automaton.tokensOf front (tiles ++ others) =
      automaton.tokensOf front tiles ++ automaton.tokensOf (front ++ textOf tiles) others := by
  induction tiles generalizing front with
  | nil => simp [tokensOf, textOf]
  | cons tile tiles ih => simp [tokensOf, textOf, ih]

theorem tokensOf_singleton (automaton : Automaton K) (front : List Char) (tile : Tile K) :
    automaton.tokensOf front [tile] = (tile.token? (automaton.place front)).toList :=
  List.append_nil _

/-- The tokens of tiles come from lexemes that are not skipped, each from the place of its tile. -/
theorem Tiling.exists_fits_of_mem_tokensOf {rest text front : List Char} {tiles : List (Tile K)}
    (tiling : automaton.Tiling rest tiles text) {token : Token K}
    (member : token ∈ automaton.tokensOf front tiles) :
    ∃ before lexeme behind ending, front ++ text = before ++ (lexeme ++ behind) ∧
      automaton.Fits behind (.lexeme lexeme ending) ∧ ¬ ending.skipped ∧
      token = ending.callback.getD id ⟨ending.kind, lexeme, automaton.place before⟩ := by
  induction tiling generalizing front with
  | nil => cases member
  | @cons tile tiles behind fits _ ih =>
    rw [tokensOf, List.mem_append, Option.mem_toList] at member
    rcases member with here | later
    · cases tile with
      | ignored c => cases here
      | lexeme lexeme ending =>
        by_cases skipped : ending.skipped
        · simp [Tile.token?, skipped] at here
        · have own : ending.callback.getD id ⟨ending.kind, lexeme, automaton.place front⟩ = token := by
            simpa [Tile.token?, skipped] using here
          exact ⟨front, lexeme, behind, ending, rfl, fits, skipped, own.symm⟩
    · have found := ih later
      rwa [List.append_assoc] at found

/-! ### What a reading finds -/

/-- From the place between `front` and `text` on, tiles lead to a place where the automaton fails,
and the error is about the place where it gets stuck. -/
def Breaks (automaton : Automaton K) (front text : List Char) (error : LexError) : Prop :=
  ∃ tiles lexeme behind, automaton.Tiling (lexeme ++ behind) tiles text ∧
    automaton.Fails lexeme behind ∧
    let before := front ++ textOf tiles ++ lexeme
    error = ⟨behind.head?, automaton.place before,
      Text.lineAround automaton.lineBreak before behind⟩

theorem Breaks.prepend {front middle text : List Char} {tiles : List (Tile K)} {error : LexError}
    (breaks : automaton.Breaks (front ++ textOf tiles) middle error)
    (tiling : automaton.Tiling middle tiles text) : automaton.Breaks front text error := by
  obtain ⟨others, lexeme, behind, onward, fails, rfl⟩ := breaks
  refine ⟨tiles ++ others, lexeme, behind, tiling.append onward, fails, ?_⟩
  simp [textOf]

/-- What an answer says about the tiles behind `front`, if it is right. -/
def Answers (automaton : Automaton K) (front text : List Char) :
    Except LexError (Option (Token K × Position)) → Prop
  | .ok none => ∃ tiles, automaton.Tiling [] tiles text ∧ automaton.tokensOf front tiles = []
  | .ok (some (token, next)) => ∃ tiles behind, automaton.Tiling behind tiles text ∧
      automaton.tokensOf front tiles = [token] ∧ next = automaton.place (front ++ textOf tiles) ∧
      behind.length < text.length
  | .error error => automaton.Breaks front text error

/-- Tiles without a token do not change what is right behind them. -/
theorem Answers.prepend {front middle text : List Char} {tiles : List (Tile K)}
    {answer : Except LexError (Option (Token K × Position))}
    (answers : automaton.Answers (front ++ textOf tiles) middle answer)
    (tiling : automaton.Tiling middle tiles text) (silent : automaton.tokensOf front tiles = []) :
    automaton.Answers front text answer := by
  match answer with
  | .ok none =>
    obtain ⟨others, onward, none⟩ := answers
    refine ⟨tiles ++ others, tiling.append onward, ?_⟩
    rw [tokensOf_append, silent, none, List.append_nil]
  | .ok (some (token, next)) =>
    obtain ⟨others, behind, onward, one, rfl, shorter⟩ := answers
    refine ⟨tiles ++ others, behind, tiling.append onward, ?_, ?_, ?_⟩
    · rw [tokensOf_append, silent, one, List.nil_append]
    · simp [textOf]
    · have whole := congrArg List.length tiling.textOf_append
      rw [List.length_append] at whole
      omega
  | .error error => exact Breaks.prepend answers tiling

theorem Fails.answers {text behind : List Char} (fails : automaton.Fails text behind)
    (front : List Char) :
    automaton.Answers front (text ++ behind)
      (.error (.unexpected (front ++ (text ++ behind)) automaton.lineBreak
        (automaton.place (front ++ text)))) := by
  refine ⟨[], text, behind, .nil, fails, ?_⟩
  rw [← List.append_assoc, place, LexError.unexpected_append, textOf, List.flatMap_nil,
    List.append_nil]
  rfl

theorem Fits.length_lt {behind : List Char} {tile : Tile K} (fits : automaton.Fits behind tile) :
    behind.length < (tile.text ++ behind).length := by
  have positive := List.length_pos_iff.mpr fits.text_ne_nil
  rw [List.length_append]
  omega

theorem Fits.answers_token {text behind : List Char} {ending : Ending K}
    (fits : automaton.Fits behind (.lexeme text ending)) (kept : ¬ ending.skipped)
    (front : List Char) :
    automaton.Answers front (text ++ behind)
      (.ok (some (ending.emit text (automaton.place front), automaton.place (front ++ text)))) := by
  refine ⟨[.lexeme text ending], behind, .cons fits .nil, ?_, ?_, fits.length_lt⟩
  · rw [tokensOf_singleton, Tile.token?, if_neg kept, Option.toList_some, Ending.emit_eq]
  · rw [textOf_singleton, Tile.text]

theorem Fits.answers_skipped {text behind : List Char} {ending : Ending K}
    (fits : automaton.Fits behind (.lexeme text ending)) (skipped : ending.skipped)
    {front : List Char} {answer : Except LexError (Option (Token K × Position))}
    (answers : automaton.Answers (front ++ text) behind answer) :
    automaton.Answers front (text ++ behind) answer := by
  have tiling : automaton.Tiling behind [.lexeme text ending] (text ++ behind) := .cons fits .nil
  refine Answers.prepend ?_ tiling ?_
  · rwa [textOf_singleton]
  · rw [tokensOf_singleton, Tile.token?, if_pos skipped, Option.toList_none]

theorem tiling_takeWhile (automaton : Automaton K) (text : List Char) :
    automaton.Tiling (text.dropWhile automaton.ignores)
      ((text.takeWhile automaton.ignores).map Tile.ignored) text := by
  induction text with
  | nil => exact .nil
  | cons c rest ih =>
    cases ignored : automaton.ignores c with
    | true =>
      have fits : automaton.Fits rest (.ignored c) := ignored
      rw [List.takeWhile_cons_of_pos ignored, List.dropWhile_cons_of_pos ignored]
      exact .cons fits ih
    | false =>
      rw [List.takeWhile_cons_of_neg (by simp [ignored]),
        List.dropWhile_cons_of_neg (by simp [ignored])]
      exact .nil

theorem textOf_map_ignored (text : List Char) :
    textOf (text.map (Tile.ignored (K := K))) = text := by
  simp [textOf, List.flatMap_map, Tile.text]

theorem tokensOf_map_ignored (automaton : Automaton K) (front text : List Char) :
    automaton.tokensOf front (text.map Tile.ignored) = [] := by
  induction text generalizing front with
  | nil => rfl
  | cons c rest ih => exact ih _

theorem Reads.fails {text behind : List Char} {final : Nat}
    (reads : automaton.Reads text final behind)
    (broken : (if text.isEmpty then none else automaton.ending? final) = none) :
    automaton.Fails text behind := by
  refine ⟨final, reads, ?_⟩
  split at broken
  next empty => exact Or.inl (List.isEmpty_iff.mp empty)
  next => exact Or.inr broken

theorem Reads.fits {text behind : List Char} {final : Nat} {ending : Ending K}
    (reads : automaton.Reads text final behind)
    (ended : (if text.isEmpty then none else automaton.ending? final) = some ending) :
    automaton.Fits behind (.lexeme text ending) := by
  split at ended
  next => cases ended
  next full => exact ⟨fun empty => full (List.isEmpty_iff.mpr empty), final, reads, ended⟩

/-- A reading finds what the tiles behind its place are. -/
theorem read_answers (automaton : Automaton K) {bound : Nat} (front text : List Char)
    (enough : text.length ≤ bound) :
    automaton.Answers front text
      (automaton.read (front ++ text) bound (automaton.place front) text) := by
  induction bound generalizing front text with
  | zero =>
    obtain rfl := List.eq_nil_of_length_eq_zero (Nat.le_zero.mp enough)
    exact ⟨[], .nil, rfl⟩
  | succ bound ih =>
    -- What is passed over first are tiles without a token.
    refine Answers.prepend ?_ (automaton.tiling_takeWhile text)
      (automaton.tokensOf_map_ignored front _)
    have split := text.takeWhile_append_dropWhile (p := automaton.ignores)
    have shown := text.head?_dropWhile_not automaton.ignores
    rw [read, ← place_append, textOf_map_ignored]
    generalize text.takeWhile automaton.ignores = passed at split ⊢
    generalize text.dropWhile automaton.ignores = kept at split shown ⊢
    subst split
    rw [← List.append_assoc]
    cases kept with
    | nil => exact ⟨[], .nil, rfl⟩
    | cons c rest =>
      obtain ⟨reads, whole⟩ := reads_walk shown rest
      dsimp only
      generalize automaton.walk 0 (c :: rest) = walk at reads whole ⊢
      obtain ⟨final, lexeme, behind⟩ := walk
      dsimp only at reads whole ⊢
      rw [← place_append, ← whole]
      split
      next broken => exact (reads.fails broken).answers _
      next ending ended =>
        have fits := reads.fits ended
        split
        next skipped =>
          -- Behind the skipped lexeme there is less text for the bound that is left.
          have shorter : behind.length < (lexeme ++ behind).length := fits.length_lt
          rw [whole] at shorter
          rw [List.length_append] at enough
          refine fits.answers_skipped skipped ?_
          rw [← List.append_assoc]
          exact ih _ _ (by omega)
        next kept => exact fits.answers_token kept _

/-- From the place of a lexeme its token is read, and the place right behind it. -/
theorem Fits.run_eq {text behind : List Char} {ending : Ending K}
    (fits : automaton.Fits behind (.lexeme text ending)) (kept : ¬ ending.skipped)
    (front : List Char) :
    automaton.lexer.run (front ++ (text ++ behind)) (automaton.place front) =
      .ok (some (ending.emit text (automaton.place front), automaton.place (front ++ text))) := by
  obtain ⟨full, final, reads, ended⟩ := fits
  obtain ⟨c, begins, shown⟩ := reads.begins
  obtain ⟨rest, whole⟩ := List.head?_eq_some_iff.mp begins
  have nonempty : ¬ text.isEmpty := by simpa using full
  -- The walk ends where the lexeme does, since there is one way to follow the transitions.
  obtain ⟨walked, split⟩ := reads_walk shown rest
  obtain ⟨lexeme, state, left⟩ := walked.unique reads (split.trans whole.symm)
  have passed : ¬ automaton.ignores c := by simp [shown]
  change automaton.run _ _ = _
  rw [run, place, Position.index_start_advanceOver, whole, Text.seek_append]
  dsimp only
  rw [List.length_cons, read, List.takeWhile_cons_of_neg passed, List.dropWhile_cons_of_neg passed]
  dsimp only
  rw [lexeme, state, if_neg nonempty, ended]
  dsimp only
  rw [if_neg kept, Position.advanceOver_nil, ← place, ← place_append]

/-- What is read from a place between two characters says what the tiles behind it are. -/
theorem run_answers (automaton : Automaton K) (front text : List Char) :
    automaton.Answers front text (automaton.run (front ++ text) (automaton.place front)) := by
  rw [run, place, Position.index_start_advanceOver]
  cases text with
  | nil =>
    rw [List.append_nil, Text.seek_byteLength]
    exact ⟨[], .nil, rfl⟩
  | cons c rest =>
    rw [Text.seek_append]
    exact automaton.read_answers front (c :: rest) (Nat.le_refl _)

/-! ### All tokens -/

/-- The tokens are those of a tiling to the end, or the error is where the tiles break off. -/
def Tokenizes (automaton : Automaton K) (front text : List Char) :
    Except LexError (List (Token K)) → Prop
  | .ok tokens => ∃ tiles, automaton.Tiling [] tiles text ∧ tokens = automaton.tokensOf front tiles
  | .error error => automaton.Breaks front text error

theorem tokensFrom_tokenizes (automaton : Automaton K) {bound : Nat} (front text : List Char)
    (enough : text.length ≤ bound) :
    automaton.Tokenizes front text
      (automaton.lexer.tokensFrom (front ++ text) bound (automaton.place front)) := by
  -- A token takes some of the text, so there is less of it for the bound that is left.
  induction bound generalizing front text with
  | zero =>
    obtain rfl := List.eq_nil_of_length_eq_zero (Nat.le_zero.mp enough)
    exact ⟨[], .nil, rfl⟩
  | succ bound ih =>
    have answers : automaton.Answers front text
        (automaton.lexer.run (front ++ text) (automaton.place front)) :=
      automaton.run_answers front text
    rw [Lexer.tokensFrom]
    split
    next error failed =>
      rw [failed] at answers
      exact answers
    next ended =>
      rw [ended] at answers
      obtain ⟨tiles, tiling, none⟩ := answers
      exact ⟨tiles, tiling, none.symm⟩
    next token next found =>
      rw [found] at answers
      obtain ⟨tiles, behind, tiling, one, rfl, shorter⟩ := answers
      have later := ih (front ++ textOf tiles) behind (by omega)
      rw [List.append_assoc, tiling.textOf_append] at later
      split
      next error failed =>
        rw [failed] at later
        exact Breaks.prepend later tiling
      next tokens succeeded =>
        rw [succeeded] at later
        obtain ⟨others, onward, rfl⟩ := later
        refine ⟨tiles ++ others, tiling.append onward, ?_⟩
        rw [tokensOf_append, one, List.singleton_append]

/-- A text that breaks off cannot be tiled to its end. -/
theorem Breaks.not_tiling {front text : List Char} {error : LexError}
    (breaks : automaton.Breaks front text error) (tiles : List (Tile K)) :
    ¬ automaton.Tiling [] tiles text := by
  intro tiling
  obtain ⟨others, lexeme, behind, broken, fails, -⟩ := breaks
  obtain ⟨-, same⟩ := tiling.unique bare_nil broken fails.bare
  obtain ⟨final, reads, -⟩ := fails
  obtain ⟨c, begins, -⟩ := reads.begins
  rw [← same] at begins
  cases begins

theorem Breaks.unique {front text : List Char} {error error' : LexError}
    (breaks : automaton.Breaks front text error) (breaks' : automaton.Breaks front text error') :
    error = error' := by
  obtain ⟨tiles, lexeme, behind, tiling, fails, rfl⟩ := breaks
  obtain ⟨tiles', lexeme', behind', tiling', fails', rfl⟩ := breaks'
  obtain ⟨rfl, same⟩ := tiling.unique fails.bare tiling' fails'.bare
  obtain ⟨final, reads, -⟩ := fails
  obtain ⟨final', reads', -⟩ := fails'
  obtain ⟨rfl, -, rfl⟩ := reads.unique reads' same
  rfl

/-- All tokens of an input are found exactly if it can be tiled to its end, and they are the tokens
of the tiles. Otherwise the error tells where: the tiles lead to a text that begins with no ignored
character, and there the automaton gets stuck before it has read anything or in a state that is
not terminal. -/
theorem tokenize_tiling (automaton : Automaton K) (input : List Char) :
    (∀ tokens, automaton.lexer.tokenize input = .ok tokens ↔
      ∃ tiles, automaton.Tiling [] tiles input ∧ tokens = automaton.tokensOf [] tiles) ∧
    ∀ error, automaton.lexer.tokenize input = .error error ↔
      ∃ tiles lexeme behind, automaton.Tiling (lexeme ++ behind) tiles input ∧
        automaton.Fails lexeme behind ∧
        let before := textOf tiles ++ lexeme
        error = ⟨behind.head?, automaton.place before,
          Text.lineAround automaton.lineBreak before behind⟩ := by
  have found : automaton.Tokenizes [] input (automaton.lexer.tokenize input) :=
    automaton.tokensFrom_tokenizes [] input (Text.length_le_byteLength input)
  -- One answer is right, and no other can be, since there is one way to lay the tiles.
  cases answer : automaton.lexer.tokenize input with
  | ok tokens =>
    rw [answer] at found
    obtain ⟨tiles, tiling, rfl⟩ := found
    refine ⟨fun others => ⟨?_, ?_⟩,
      fun error => ⟨?_, fun breaks : automaton.Breaks [] input error => ?_⟩⟩
    · rintro ⟨⟩
      exact ⟨tiles, tiling, rfl⟩
    · rintro ⟨tiles', tiling', rfl⟩
      obtain ⟨rfl, -⟩ := tiling.unique bare_nil tiling' bare_nil
      rfl
    · rintro ⟨⟩
    · exact absurd tiling (breaks.not_tiling tiles)
  | error error =>
    rw [answer] at found
    refine ⟨fun tokens => ⟨?_, ?_⟩,
      fun other => ⟨?_, fun breaks : automaton.Breaks [] input other => ?_⟩⟩
    · rintro ⟨⟩
    · rintro ⟨tiles, tiling, -⟩
      exact absurd tiling (found.not_tiling tiles)
    · rintro ⟨⟩
      exact found
    · rw [found.unique breaks]

end Automaton

namespace Sample

/-- What is read in big letters. -/
def shouted (token : Token Mark) : Token Mark :=
  { token with text := token.text.map Char.toUpper }

/-- Words of small letters that come out in big ones, and commas between them. -/
def shoutingSteps : List (AutomatonStep Mark) :=
  [.mark "start", .step (.range 'a' 'z'), .mark "word", .finish .word false, .callback shouted,
    .stepTo (.range 'a' 'z') "word", .goto "start", .step (.char ','), .finish .comma true]

end Sample

/-- A comma and a word are tiles, and the token of the word has big letters and the place where the
word begins. With another mark behind them the tiles do not reach to the end. -/
theorem Automaton.tokenize_tiling_shouting :
    ∃ automaton, (AutomatonBuilder.ofSteps Sample.shoutingSteps).build.value = some automaton ∧
      let tokens : List (Token Sample.Mark) := [⟨.word, "AB".toList, ⟨1, 1, 2⟩⟩]
      let error : LexError := ⟨some '?', ⟨3, 1, 4⟩, ",ab?".toList⟩
      automaton.lexer.tokenize ",ab".toList = .ok tokens ∧
      (∃ tiles, automaton.Tiling [] tiles ",ab".toList ∧ tokens = automaton.tokensOf [] tiles) ∧
      automaton.lexer.tokenize ",ab?".toList = .error error ∧
      ∃ tiles lexeme behind, automaton.Tiling (lexeme ++ behind) tiles ",ab?".toList ∧
        automaton.Fails lexeme behind ∧ error.character = behind.head? := by
  have computed : (AutomatonBuilder.ofSteps Sample.shoutingSteps).build.value.map
      (fun automaton =>
        (automaton.lexer.tokenize ",ab".toList, automaton.lexer.tokenize ",ab?".toList)) =
      some (.ok [⟨.word, "AB".toList, ⟨1, 1, 2⟩⟩],
        .error ⟨some '?', ⟨3, 1, 4⟩, ",ab?".toList⟩) := rfl
  obtain ⟨automaton, built, found⟩ := Option.map_eq_some_iff.mp computed
  obtain ⟨read, failed⟩ := Prod.mk.inj found
  refine ⟨automaton, built, read, ?_, failed, ?_⟩
  · exact ((automaton.tokenize_tiling ",ab".toList).1 _).mp read
  · obtain ⟨tiles, lexeme, behind, tiling, fails, same⟩ :=
      ((automaton.tokenize_tiling ",ab?".toList).2 _).mp failed
    exact ⟨tiles, lexeme, behind, tiling, fails, congrArg LexError.character same⟩

end Lookahead
