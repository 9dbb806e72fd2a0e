import Lookahead.Proofs.Lexer.CheckedRun
import Lookahead.Proofs.Lexer.Counters
import Lookahead.Proofs.Lexer.Segmentation
import Lookahead.Proofs.Lexer.StateNumbers
import Lookahead.Proofs.Lexer.Tiling
import Lookahead.Proofs.Regex.MatchEnd

/-!
# Rounds of a run and readings

A reading with a bound for its rounds goes through a text as a run in a machine does. Every round
cuts the input where characters begin and looks up states that are there. A round either ends the
run, or it goes on behind some more text from where the reading has the same answer. So the rounds
end, and where there is room for lines and columns they end with the answer of the reading. This
goes for automata and for lexers from regular expressions alike.

It does not matter for the end how lines and columns are counted, because a round goes on from an
index. A counter that begins again at zero only makes the places different.

Main statements: `Lexer.Unrolls.replies`, `Automaton.Closed.unrolls` and `LexemeTable.unrolls`.
-/

namespace Lookahead

variable {K : Type} {counting : Counting}

/-! ### Readings and rounds -/

namespace Lexer

/-- The answer has no token, or the place behind the token is behind `position` and the input can be
cut there. -/
def Advances (input : List Char) (position : Position) : Answer K → Prop
  | .ok (some (_, next)) => position.index < next.index ∧ Text.IsBoundary input next.index
  | _ => True

/-- The answer has no token, or there is room for the rest of the input behind the token. -/
def RoomBehind (counting : Counting) (input : List Char) : Answer K → Prop
  | .ok (some (_, next)) => Room counting input next
  | _ => True

/-- What a run replies from `position`, if a reading without limits answers `answer` from `place`.
The reply is the same answer where the two agree, and unless they do a counter can overflow. -/
inductive Replies (counting : Counting) (input : List Char) (position place : Position)
    (answer : Answer K) : Reply K → Prop
  | stopped {overflow : Overflow} :
      counting = .checked → ¬ Agree counting input position place →
      Replies counting input position place answer (.error overflow)
  | answered {own : Answer K} : Advances input position own →
      (Agree counting input position place → own = answer ∧ RoomBehind counting input own) →
      Replies counting input position place answer (.ok own)

theorem Advances.trans {input : List Char} {position next : Position} {answer : Answer K}
    (advances : Advances input next answer) (onward : position.index ≤ next.index) :
    Advances input position answer := by
  match answer with
  | .ok (some (_, behind)) => exact advances.imp_left (Nat.lt_of_le_of_lt onward)
  | .ok none => trivial
  | .error _ => trivial

/-- A reply from further on is one from here. -/
theorem Replies.trans {input : List Char} {position place next after : Position}
    {answer : Answer K} {reply : Reply K} (replies : Replies counting input next after answer reply)
    (onward : position.index ≤ next.index)
    (agree : Agree counting input position place → Agree counting input next after) :
    Replies counting input position place answer reply := by
  cases replies with
  | stopped checks tight => exact .stopped checks fun both => tight (agree both)
  | answered advances same => exact .answered (advances.trans onward) fun both => same (agree both)

/-- What a round comes to from the place between `front` and `text`, if a reading without limits
answers `answer` there: the reply of the run, or another place behind some of the text from which
the reading has the same answer. -/
inductive Turn (counting : Counting) (read : Nat → Position → List Char → Answer K)
    (front text : List Char) (position place : Position) (answer : Answer K) :
    Option (Round Position (Reply K)) → Prop
  | done {reply : Reply K} : Replies counting (front ++ text) position place answer reply →
      Turn counting read front text position place answer (some (.done reply))
  | again {middle back : List Char} {next after : Position} {bound : Nat} :
      text = middle ++ back → middle ≠ [] →
      next.index = position.index + Text.byteLength middle → next.index = after.index →
      back.length ≤ bound → answer = read bound after back →
      (Agree counting (front ++ text) position place →
        Agree counting (front ++ text) next after) →
      Turn counting read front text position place answer (some (.again next))

variable {read : Nat → Position → List Char → Answer K} {position place next after : Position}

/-- A round can end with a counter that overflows on the way. -/
theorem Turn.stopped {front text : List Char} {answer : Answer K} {overflow : Overflow}
    (moves : Moves counting (front ++ text) position place after (.error overflow)) :
    Turn counting read front text position place answer (some (.done (.error overflow))) := by
  obtain ⟨checks, tight⟩ := moves
  exact .done (.stopped checks tight)

/-- A round can end with a token that takes some of the text. -/
theorem Turn.token {front middle back : List Char} (own token : Token K)
    (placed : position.index = Text.byteLength front) (full : middle ≠ [])
    (further : next.index = position.index + Text.byteLength middle)
    (same : position = place → own = token)
    (agree : Agree counting (front ++ (middle ++ back)) position place →
      Agree counting (front ++ (middle ++ back)) next after) :
    Turn counting read front (middle ++ back) position place (.ok (some (token, after)))
      (some (.done (.ok (.ok (some (own, next)))))) := by
  have positive := Text.byteLength_pos full
  refine .done (.answered ⟨by omega, front ++ middle, back, ?_, ?_⟩ fun both => ?_)
  · rw [List.append_assoc]
  · rw [further, placed, Text.byteLength_append]
  · obtain ⟨equal, room⟩ := agree both
    exact ⟨by rw [same both.1, equal], room⟩

/-- What is passed over first does not change what a round comes to. -/
theorem Turn.prepend {front passed text : List Char} {answer : Answer K}
    {outcome : Option (Round Position (Reply K))}
    (turn : Turn counting read (front ++ passed) text next after answer outcome)
    (behind : next.index = position.index + Text.byteLength passed)
    (agree : Agree counting (front ++ (passed ++ text)) position place →
      Agree counting (front ++ (passed ++ text)) next after) :
    Turn counting read front (passed ++ text) position place answer outcome := by
  cases turn with
  | done replies =>
    rw [List.append_assoc] at replies
    exact .done (replies.trans (by omega) agree)
  | @again middle back _ _ _ split full further index shorter same agree' =>
    rw [List.append_assoc] at agree'
    subst split
    refine .again (List.append_assoc passed middle back).symm (by simp [full]) ?_ index shorter same
      fun both => agree' (agree both)
    rw [further, behind, Text.byteLength_append, Nat.add_assoc]

/-- A reading with a bound goes on as the rounds do, if the bound is as large as the text. -/
def Unrolls (round? : Counting → List Char → Position → Option (Round Position (Reply K)))
    (read : List Char → Nat → Position → List Char → Answer K) : Prop :=
  ∀ {counting : Counting} {bound : Nat} {position place : Position} {front text : List Char},
    counting.Holds (Text.byteLength (front ++ text)) →
    position.index = Text.byteLength front → position.index = place.index → text.length ≤ bound →
    Turn counting (read (front ++ text)) front text position place
      (read (front ++ text) bound place text) (round? counting (front ++ text) position)

variable {round? : Counting → List Char → Position → Option (Round Position (Reply K))}
  {read : List Char → Nat → Position → List Char → Answer K}

/-- The rounds from a place end, each of them but the last leaving less text. -/
theorem Unrolls.replies (unrolls : Unrolls round? read) {bound rounds : Nat}
    {front text : List Char} (held : counting.Holds (Text.byteLength (front ++ text)))
    (placed : position.index = Text.byteLength front) (same : position.index = place.index)
    (enough : text.length ≤ bound) (enough' : text.length ≤ rounds) :
    ∃ reply, Round.loop? (round? counting (front ++ text)) rounds
        (round? counting (front ++ text) position) = some reply ∧
      Replies counting (front ++ text) position place (read (front ++ text) bound place text)
        reply := by
  induction rounds generalizing bound position place front text with
  | zero =>
    have turn := unrolls held placed same enough
    generalize round? counting (front ++ text) position = outcome at turn ⊢
    cases turn with
    | done replies => exact ⟨_, rfl, replies⟩
    | again split full =>
      -- Another round takes some text, and there is none.
      obtain rfl := List.eq_nil_of_length_eq_zero (Nat.le_zero.mp enough')
      exact absurd (List.append_eq_nil_iff.mp split.symm).1 full
  | succ rounds ih =>
    have turn := unrolls held placed same enough
    generalize read (front ++ text) bound place text = answer at turn ⊢
    generalize round? counting (front ++ text) position = outcome at turn ⊢
    cases turn with
    | done replies => exact ⟨_, rfl, replies⟩
    | @again middle back next after left split full further index shorter answered agree =>
      subst split
      have counted := List.length_pos_iff.mpr full
      have placed' : next.index = Text.byteLength (front ++ middle) := by
        rw [further, placed, Text.byteLength_append]
      rw [List.length_append] at enough'
      -- What the round took is now in front of the place, and the input is the same.
      rw [← List.append_assoc] at held answered agree ⊢
      obtain ⟨reply, ends, replies⟩ := ih held placed' index shorter (by omega)
      exact ⟨reply, ends, answered ▸ replies.trans (by omega) agree⟩

end Lexer

/-! ### Automata -/

namespace Automaton

variable {automaton : Automaton K}

/-- Looking up every state on the way does not change how far the automaton gets. -/
theorem Closed.walk?_moves (closed : automaton.Closed) {input : List Char}
    (held : counting.Holds (Text.byteLength input)) {number : Nat}
    (there : number < automaton.size) {position place : Position}
    (same : position.index = place.index) {text : List Char}
    (inside : position.index + Text.byteLength text ≤ Text.byteLength input) :
    let walk := automaton.walk number text
    walk.state < automaton.size ∧ ∃ moved : Except Overflow Position,
      automaton.walk? counting number position text =
        some (moved.map fun cursor => (walk.state, cursor)) ∧
      Moves counting input position place (place.advanceOver automaton.lineBreak walk.lexeme)
        moved := by
  induction text generalizing number position place with
  | nil => exact ⟨there, .ok position, rfl, .moved same id⟩
  | cons c rest ih =>
    rw [Text.byteLength_cons] at inside
    obtain ⟨state, found⟩ : ∃ state, automaton.states[number]? = some state :=
      ⟨_, List.getElem?_eq_getElem there⟩
    have onward : automaton.next? number c = state.next? c := by
      rw [next?, found, Option.bind_some]
    rw [walk?, walk, onward, found, Option.bind_eq_bind, Option.bind_some]
    cases leads : state.next? c with
    | none => exact ⟨there, .ok position, rfl, .moved same id⟩
    | some target =>
      obtain ⟨transition, taken, rfl⟩ := Option.map_eq_some_iff.mp leads
      have within := closed.targets state (List.mem_of_getElem? found) transition
        (List.mem_of_find?_eq_some taken)
      have moves := Position.moves_advanceIn held same automaton.lineBreak (c := c) (by omega)
      dsimp only
      cases step : position.advanceIn counting automaton.lineBreak c with
      | error overflow =>
        -- Without limits the walk goes on, and where it gets does not matter any more.
        rw [step] at moves
        obtain ⟨checks, tight⟩ := moves
        have near : place.index + Text.byteLength rest ≤ Text.byteLength input := by omega
        exact ⟨(ih within rfl near).1, .error overflow, rfl, .stopped checks tight⟩
      | ok next =>
        rw [step] at moves
        have near : next.index + Text.byteLength rest ≤ Text.byteLength input := by
          rw [moves.index, Position.index_advance]
          omega
        obtain ⟨there', moved, walked, moves'⟩ := ih within moves.index near
        exact ⟨there', moved, walked, moves.trans moves'⟩

/-- A lexeme takes bytes, so it is the same to ask whether the place behind it is another one and
whether it is empty. -/
theorem decision_eq {first cursor : Position} {lexeme : List Char} {final : Nat}
    (behind : cursor.index = first.index + Text.byteLength lexeme) {state : State K}
    (found : automaton.states[final]? = some state) :
    (if first.index < cursor.index then state.ending else none) =
      if lexeme.isEmpty then none else automaton.ending? final := by
  rw [behind, ending?, found, Option.bind_some]
  cases lexeme with
  | nil => simp
  | cons c rest =>
    have positive := c.utf8Size_pos
    rw [if_pos (by rw [Text.byteLength_cons]; omega)]
    rfl

/-- From the first character that is not ignored a round comes to what the reading makes of the
lexeme there. -/
theorem Closed.lexemeRound?_turn (closed : automaton.Closed) {bound : Nat}
    {position place : Position} {front : List Char} {c : Char} {rest : List Char}
    (held : counting.Holds (Text.byteLength (front ++ c :: rest)))
    (placed : position.index = Text.byteLength front) (same : position.index = place.index)
    (enough : rest.length ≤ bound) :
    let input := front ++ c :: rest
    let walk := automaton.walk 0 (c :: rest)
    let behind := place.advanceOver automaton.lineBreak walk.lexeme
    Lexer.Turn counting (automaton.read input) front (c :: rest) position place
      (match if walk.lexeme.isEmpty then none else automaton.ending? walk.state with
      | none => .error (LexError.unexpected input automaton.lineBreak behind)
      | some ending =>
        if ending.skipped then automaton.read input bound behind walk.rest
        else .ok (some (ending.emit walk.lexeme place, behind)))
      (automaton.lexemeRound? counting input position) := by
  have inside : position.index + Text.byteLength (c :: rest) ≤
      Text.byteLength (front ++ c :: rest) := by
    rw [placed, Text.byteLength_append]
  obtain ⟨there, moved, walked, moves⟩ := closed.walk?_moves held closed.first same inside
  obtain ⟨whole, -, -⟩ := automaton.walk_path 0 (c :: rest)
  have cut := Text.splitAt?_byteLength front (c :: rest)
  rw [← placed] at cut
  dsimp only
  rw [lexemeRound?, cut]
  dsimp only [Option.bind_eq_bind, Option.bind_some]
  rw [walked]
  dsimp only [Option.bind_some]
  generalize automaton.walk 0 (c :: rest) = walk at there whole moves ⊢
  obtain ⟨final, lexeme, back⟩ := walk
  dsimp only at there whole moves ⊢
  cases moved with
  | error overflow => exact .stopped moves
  | ok cursor =>
    obtain _ | ⟨index, agree⟩ := moves
    have found : automaton.states[final]? = some automaton.states[final] :=
      List.getElem?_eq_getElem there
    have behind : cursor.index = position.index + Text.byteLength lexeme := by
      rw [index, Position.index_advanceOver, same]
    generalize place.advanceOver automaton.lineBreak lexeme = after at index agree ⊢
    have placed' : cursor.index = Text.byteLength (front ++ lexeme) := by
      rw [behind, placed, Text.byteLength_append]
    dsimp only [Except.map]
    rw [found, Option.bind_some, decision_eq behind found]
    cases ended : if lexeme.isEmpty then none else automaton.ending? final with
    | none =>
      dsimp only
      rw [← whole, ← List.append_assoc, LexError.cut?_append _ placed', List.append_assoc]
      rw [← whole] at agree
      exact .done (.answered trivial fun both => ⟨by rw [(agree both).1], trivial⟩)
    | some ending =>
      dsimp only
      have full : lexeme ≠ [] := by
        rintro rfl
        cases ended
      by_cases skipped : ending.skipped
      · rw [if_pos skipped, if_pos skipped]
        refine .again whole.symm full behind index ?_ rfl agree
        have counted := congrArg List.length whole
        have taken := List.length_pos_iff.mpr full
        rw [List.length_append, List.length_cons] at counted
        omega
      · rw [if_neg skipped, if_neg skipped, behind, placed, ← whole, Text.slice?_append]
        rw [← whole] at agree
        exact .token _ _ placed full behind (fun equal => by rw [equal]) agree

theorem Closed.unrolls (closed : automaton.Closed) :
    Lexer.Unrolls automaton.round? automaton.read := by
  intro counting bound position place front text held placed same enough
  have inside : position.index + Text.byteLength text ≤ Text.byteLength (front ++ text) := by
    rw [placed, Text.byteLength_append]
  cases bound with
  | zero =>
    -- Without a bound there is no text left, and a round finds itself at the end.
    obtain rfl := List.eq_nil_of_length_eq_zero (Nat.le_zero.mp enough)
    have ended : automaton.round? counting (front ++ []) position =
        some (.done (.ok (.ok none))) := by
      rw [round?, placed, Text.splitAt?_byteLength]
      simp [Position.advanceOverIn, placed]
    rw [ended]
    exact .done (.answered trivial fun _ => ⟨rfl, trivial⟩)
  | succ bound =>
    have split := text.takeWhile_append_dropWhile (p := automaton.ignores)
    have passes : Text.byteLength (text.takeWhile automaton.ignores) ≤ Text.byteLength text := by
      rw [← split, Text.byteLength_append]
      simp
    have moves := Position.moves_advanceOverIn held same automaton.lineBreak
      (Nat.le_trans (Nat.add_le_add_left passes _) inside)
    rw [round?, placed, Text.splitAt?_byteLength, read]
    dsimp only [Option.bind_eq_bind, Option.bind_some]
    generalize text.takeWhile automaton.ignores = passed at split moves ⊢
    generalize text.dropWhile automaton.ignores = kept at split ⊢
    subst split
    cases step : position.advanceOverIn counting automaton.lineBreak passed with
    | error overflow =>
      rw [step] at moves
      exact .stopped moves
    | ok first =>
      -- From the place behind what is passed over the round goes on as from a start of its own.
      rw [step] at moves
      obtain _ | ⟨index, agree⟩ := moves
      have further : first.index = position.index + Text.byteLength passed := by
        rw [index, Position.index_advanceOver, same]
      generalize place.advanceOver automaton.lineBreak passed = start at index agree ⊢
      have placed' : first.index = Text.byteLength (front ++ passed) := by
        rw [further, placed, Text.byteLength_append]
      dsimp only
      rw [← List.append_assoc]
      cases kept with
      | nil =>
        rw [if_pos (by simp [placed'])]
        exact .done (.answered trivial fun _ => ⟨rfl, trivial⟩)
      | cons c rest =>
        have positive := c.utf8Size_pos
        have near : first.index < Text.byteLength (front ++ passed ++ c :: rest) :=
          Text.lt_byteLength_of_lt (by omega)
        rw [if_neg (Nat.not_le.mpr near)]
        rw [← List.append_assoc] at held
        refine (closed.lexemeRound?_turn held placed' index ?_).prepend further agree
        rw [List.length_append, List.length_cons] at enough
        omega

end Automaton

/-! ### Tables of lexemes -/

theorem LexemeTable.unrolls {table : LexemeTable K}
    (within : ∀ lexeme ∈ table.lexemes, lexeme.Within) :
    Lexer.Unrolls table.round? table.read := by
  intro counting bound position place front text held placed same enough
  cases text with
  | nil =>
    have answered : table.read (front ++ []) bound place [] = .ok none := by
      cases bound <;> rfl
    rw [answered, round?, if_pos (by simp [placed])]
    exact .done (.answered trivial fun _ => ⟨rfl, trivial⟩)
  | cons c rest =>
    have positive := c.utf8Size_pos
    have near : position.index < Text.byteLength (front ++ c :: rest) :=
      Text.lt_byteLength_of_lt (by omega)
    cases bound with
    | zero => cases enough
    | succ bound =>
      rw [read, round?, if_neg (by simp), if_neg (Nat.not_le.mpr near), placed,
        Text.splitAt?_byteLength]
      dsimp only [Option.bind_eq_bind, Option.bind_some]
      cases found : longest (c :: rest) table.lexemes with
      | none =>
        dsimp only
        rw [LexError.cut?_append _ placed]
        exact .done (.answered trivial fun both => ⟨by rw [both.1], trivial⟩)
      | some pair =>
        obtain ⟨lexeme, length⟩ := pair
        have wins := wins_of_longest found
        have taken := wins.positive
        have fits : length ≤ (c :: rest).length :=
          within lexeme wins.member _ length wins.matched
        have whole := List.take_append_drop length (c :: rest)
        have full : (c :: rest).take length ≠ [] := by
          simp
          omega
        have inside : position.index + Text.byteLength ((c :: rest).take length) ≤
            Text.byteLength (front ++ c :: rest) := by
          rw [placed, ← whole, Text.byteLength_append, Text.byteLength_append]
          simp
        have moves := lexeme.moves_advanceIn held same inside
        dsimp only
        rw [if_neg (Nat.not_lt.mpr fits)]
        cases step : lexeme.advanceIn counting position ((c :: rest).take length) with
        | error overflow =>
          rw [step] at moves
          exact .stopped moves
        | ok next =>
          rw [step] at moves
          obtain _ | ⟨index, agree⟩ := moves
          have further :
              next.index = position.index + Text.byteLength ((c :: rest).take length) := by
            rw [index, lexeme.index_advance, same]
          dsimp only
          by_cases skipped : lexeme.skipped
          · rw [if_pos skipped, if_pos skipped]
            refine .again whole.symm full further index ?_ rfl agree
            rw [List.length_drop]
            omega
          · rw [if_neg skipped, if_neg skipped]
            have turn : Lexer.Turn counting (table.read (front ++ c :: rest)) front
                ((c :: rest).take length ++ (c :: rest).drop length) position place _ _ :=
              .token ⟨lexeme.kind, (c :: rest).take length, position⟩
                ⟨lexeme.kind, (c :: rest).take length, place⟩ placed full further
                (fun equal => by rw [equal]) (by rwa [whole])
            rwa [whole] at turn

end Lookahead
