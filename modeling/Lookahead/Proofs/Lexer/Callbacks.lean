import Lookahead.Proofs.Lexer.BuilderSteps
import Lookahead.Proofs.Lexer.Tokenization

/-!
# Callbacks of states

What becomes of a lexeme at the end of a state is told by two kinds of steps, those that make the
state terminal and those that attach a callback. A callback replaces an earlier one, and it stays
whatever steps follow for other states, or for the transitions and the mark of this one. But if the
state is made terminal once more, with the same kind, the callback is gone, and nothing is reported.

Main statement: `AutomatonBuilder.changed_by_last_callback`.
-/

namespace Lookahead

variable {K : Type}

namespace Automaton

variable {automaton : Automaton K}

/-- The tile gives no token. -/
def Tile.Silent : Tile K → Prop
  | .ignored _ => True
  | .lexeme _ ending => ending.skipped = true

/-- Behind tiles that give no token there is a lexeme, at whose end the automaton is in the state
`final`. -/
def Ends (automaton : Automaton K) (text : List Char) (tiles : List (Tile K))
    (lexeme : List Char) (final : Nat) : Prop :=
  (∀ tile ∈ tiles, tile.Silent) ∧ lexeme ≠ [] ∧
    ∃ rest, automaton.Tiling (lexeme ++ rest) tiles text ∧ automaton.Reads lexeme final rest

theorem Ends.prepend {text middle : List Char} {tiles others : List (Tile K)}
    {lexeme : List Char} {final : Nat} (ends : automaton.Ends middle others lexeme final)
    (tiling : automaton.Tiling middle tiles text) (silent : ∀ tile ∈ tiles, tile.Silent) :
    automaton.Ends text (tiles ++ others) lexeme final := by
  obtain ⟨alsoSilent, full, rest, onward, reads⟩ := ends
  refine ⟨fun tile member => ?_, full, rest, tiling.append onward, reads⟩
  exact (List.mem_append.mp member).elim (silent tile) (alsoSilent tile)

/-- A token is made at the end of a lexeme, by the ending of the state that the automaton is in. -/
theorem exists_ends_of_read {input text : List Char} {bound : Nat} {position next : Position}
    {token : Token K}
    (found : automaton.read input bound position text = .ok (some (token, next))) :
    ∃ tiles lexeme final ending, automaton.Ends text tiles lexeme final ∧
      automaton.ending? final = some ending ∧ ending.skipped = false ∧
      token = ending.emit lexeme (position.advanceOver automaton.lineBreak (textOf tiles)) := by
  induction bound generalizing position text with
  | zero => cases found
  | succ bound ih =>
    have tiling := automaton.tiling_takeWhile text
    have passed := textOf_map_ignored (K := K) (text.takeWhile automaton.ignores)
    have shown := text.head?_dropWhile_not automaton.ignores
    have silent : ∀ tile ∈ (text.takeWhile automaton.ignores).map (Tile.ignored (K := K)),
        tile.Silent := by simp [Tile.Silent]
    rw [read] at found
    generalize (text.takeWhile automaton.ignores).map (Tile.ignored (K := K)) = tiles
      at tiling passed silent
    generalize text.dropWhile automaton.ignores = kept at tiling shown found
    cases kept with
    | nil => cases found
    | cons c rest =>
      obtain ⟨reads, whole⟩ := reads_walk shown rest
      dsimp only at found
      generalize automaton.walk 0 (c :: rest) = walk at reads whole found
      obtain ⟨final, lexeme, behind⟩ := walk
      dsimp only at reads whole found
      rw [← passed, ← Position.advanceOver_append] at found
      split at found
      next => cases found
      next ending ended =>
        obtain ⟨full, -⟩ := reads.fits ended
        rw [if_neg (by simpa using full)] at ended
        split at found
        next skipped =>
          -- What is passed over reaches to the end of the skipped lexeme.
          have skips : automaton.Tiling behind [.lexeme lexeme ending] (c :: rest) := by
            rw [← whole]
            exact .cons ⟨full, final, reads, ended⟩ .nil
          obtain ⟨others, lexeme', final', ending', ends, ended', kept, made⟩ := ih found
          refine ⟨tiles ++ ([.lexeme lexeme ending] ++ others), lexeme', final', ending',
            ?_, ended', kept, ?_⟩
          · exact (ends.prepend skips (by simpa [Tile.Silent] using skipped)).prepend tiling silent
          · rw [made, ← Position.advanceOver_append]
            simp [textOf, Tile.text]
        next kept =>
          cases found
          refine ⟨tiles, lexeme, final, ending, ⟨silent, full, behind, ?_, reads⟩, ended,
            by simpa using kept, ?_⟩
          · rwa [whole]
          · rfl

end Automaton

namespace AutomatonBuilder

/-- A step about the tokens that end in the current state. -/
inductive EndStep (K : Type) where
  /-- The state is made terminal. -/
  | finish (kind : K) (skipped : Bool)
  /-- A callback is attached to it. -/
  | callback (change : Token K → Token K)

/-- What the step does to the ending of the state. -/
def EndStep.apply : Option (Ending K) → EndStep K → Option (Ending K)
  | _, .finish kind skipped => some ⟨kind, skipped, none⟩
  | ending, .callback change =>
    ending.map fun ending => { ending with callback := some change }

/-- What the step is for the state of that number, if it is about the tokens that end there. -/
def endStep? (number : Nat) (builder : AutomatonBuilder K) : AutomatonStep K → Option (EndStep K)
  | .finish kind skipped =>
    if builder.current = some number then some (.finish kind skipped) else none
  | .callback change => if builder.current = some number then some (.callback change) else none
  | _ => none

theorem Effect.ending {builder after : AutomatonBuilder K} {step : AutomatonStep K}
    (effect : builder.Effect step after) (closed : builder.Closed)
    (unblemished : after.issues = []) (number : Nat) :
    (after.state number).ending =
      (endStep? number builder step).toList.foldl EndStep.apply (builder.state number).ending := by
  obtain ⟨issue, current, -, rfl⟩ | altered := effect.refuses_or_alters closed
  · simp [report] at unblemished
  · -- Only the current state is altered, and only two kinds of steps are about its ending.
    rw [altered]
    split
    next here => cases step <;> simp [alteration, endStep?, here, EndStep.apply]
    next elsewhere => cases step <;> simp [endStep?, elsewhere]

/-- The ending is what made the state terminal last, with the last callback attached since. -/
theorem exists_of_foldl_endSteps {steps : List (EndStep K)} {ending : Ending K}
    (ended : steps.foldl EndStep.apply none = some ending) :
    ∃ (before : List (EndStep K)) (kind : K) (skipped : Bool)
      (changes : List (Token K → Token K)),
      steps = before ++ .finish kind skipped :: changes.map .callback ∧
        ending = ⟨kind, skipped, changes.getLast?⟩ := by
  induction steps using List.reverseRecOn generalizing ending with
  | nil => cases ended
  | append_singleton steps step ih =>
    rw [List.foldl_append, List.foldl_cons, List.foldl_nil] at ended
    cases step with
    | finish kind skipped =>
      -- Whatever was attached before is gone.
      cases ended
      exact ⟨steps, kind, skipped, [], rfl, rfl⟩
    | callback change =>
      rw [EndStep.apply] at ended
      obtain ⟨old, earlier, rfl⟩ := Option.map_eq_some_iff.mp ended
      obtain ⟨before, kind, skipped, changes, rfl, rfl⟩ := ih earlier
      exact ⟨before, kind, skipped, changes ++ [change], by simp, by simp⟩

variable [DecidableEq K]

/-- The steps about the tokens that end in the state of that number, in the order in which they were
taken. -/
def endSteps (number : Nat) (steps : List (AutomatonStep K)) : List (EndStep K) :=
  log (endStep? number) empty steps

theorem ending_ofSteps {steps : List (AutomatonStep K)}
    (unblemished : (ofSteps steps).issues = []) (number : Nat) :
    ((ofSteps steps).state number).ending = (endSteps number steps).foldl EndStep.apply none := by
  induction steps using List.reverseRecOn with
  | nil => simp [ofSteps, state_empty, State.fresh, endSteps, log]
  | append_singleton steps step ih =>
    -- No issue is ever taken back, so nothing went wrong before the last step either.
    rw [ofSteps_concat] at unblemished ⊢
    have effect := (ofSteps steps).effect_apply step
    rw [effect.ending (closed_ofSteps steps) unblemished, endSteps, log_concat, List.foldl_append,
      ih (effect.before_unblemished unblemished), endSteps]

/-- In an automaton that was built, a token is made at the end of a lexeme: in the state where the
lexeme ends, it gets the kind that the state was made terminal with, and then it is changed by the
last callback that was attached to the state, unless the state was made terminal again since. -/
theorem changed_by_last_callback [TokenKind K] {steps : List (AutomatonStep K)}
    {automaton : Automaton K} (built : (ofSteps steps).build.value = some automaton)
    {input : List Char} {position next : Position} {token : Token K}
    (found : automaton.run input position = .ok (some (token, next))) :
    ∃ text tiles lexeme final, ∃ (before : List (EndStep K)) (kind : K)
      (changes : List (Token K → Token K)),
      Text.seek input position.index = .before text ∧
      automaton.Ends text tiles lexeme final ∧
      endSteps final steps = before ++ .finish kind false :: changes.map .callback ∧
      let start := position.advanceOver automaton.lineBreak (Automaton.textOf tiles)
      token = (changes.getLast?.getD id) ⟨kind, lexeme, start⟩ := by
  obtain ⟨unblemished, rfl⟩ := build_eq_some_iff.mp built
  rw [Automaton.run] at found
  split at found
  next => cases found
  next => cases found
  next text here =>
    obtain ⟨tiles, lexeme, final, ending, ends, ended, kept, rfl⟩ :=
      Automaton.exists_ends_of_read found
    rw [Automaton.ending?, ← ending_state, ending_ofSteps unblemished] at ended
    obtain ⟨before, kind, skipped, changes, same, rfl⟩ := exists_of_foldl_endSteps ended
    -- A skipped lexeme makes no token.
    obtain rfl : skipped = false := kept
    refine ⟨text, tiles, lexeme, final, before, kind, changes, here, ends, same, ?_⟩
    cases last : changes.getLast? <;> simp [Ending.emit]

end AutomatonBuilder

/-- The callback stays through the loop and the jump, and the comma is passed over. -/
theorem AutomatonBuilder.changed_by_last_callback_shouting :
    ∃ automaton, (ofSteps Sample.shoutingSteps).build.value = some automaton ∧
      automaton.run ",ab".toList .start = .ok (some (⟨.word, "AB".toList, ⟨1, 1, 2⟩⟩, ⟨3, 1, 4⟩)) ∧
      ∃ tiles lexeme final, automaton.Ends ",ab".toList tiles lexeme final ∧
        ∃ (before : List (EndStep Sample.Mark)) (kind : Sample.Mark) (changes : List _),
          endSteps final Sample.shoutingSteps =
            before ++ .finish kind false :: changes.map .callback := by
  have buildable : (ofSteps Sample.shoutingSteps).build.value.isSome := by decide
  obtain ⟨automaton, built⟩ := Option.isSome_iff_exists.mp buildable
  have found : automaton.run ",ab".toList .start =
      .ok (some (⟨.word, "AB".toList, ⟨1, 1, 2⟩⟩, ⟨3, 1, 4⟩)) := by
    obtain ⟨-, rfl⟩ := build_eq_some_iff.mp built
    rfl
  obtain ⟨text, tiles, lexeme, final, before, kind, changes, here, ends, same, -⟩ :=
    changed_by_last_callback built found
  obtain rfl : ",ab".toList = text := Text.Place.before.inj here
  exact ⟨automaton, built, found, tiles, lexeme, final, ends, before, kind, changes, same⟩

/-- A state that is made terminal once more, with the same kind, has lost its callback. -/
theorem AutomatonBuilder.callback_is_lost :
    let steps : List (AutomatonStep Sample.Mark) :=
      [.step (.char 'x'), .finish .word false, .callback Sample.shouted, .finish .word false]
    ∃ automaton, (ofSteps steps).build = ⟨some automaton, []⟩ ∧
      endSteps 1 steps =
        [.finish .word false, .callback Sample.shouted, .finish .word false] ∧
      automaton.Ends "x".toList [] "x".toList 1 ∧
      automaton.run "x".toList .start = .ok (some (⟨.word, "x".toList, .start⟩, ⟨1, 1, 2⟩)) ∧
      Sample.shouted ⟨.word, "x".toList, .start⟩ ≠ ⟨.word, "x".toList, .start⟩ := by
  intro steps
  refine ⟨_, rfl, rfl, ⟨nofun, List.cons_ne_nil _ _, [], .nil, ?_⟩, rfl, by decide⟩
  exact (Automaton.reads_walk (c := 'x') rfl []).1

end Lookahead
