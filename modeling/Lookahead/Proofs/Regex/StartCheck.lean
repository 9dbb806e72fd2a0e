import Lookahead.Proofs.Regex.Linking

/-!
# Matches behind a check for the start

To put a check for the start of the text in front of a program changes nothing about its match at
the start. The program gets one more instruction, which is passed once and never reached again, and
it may look at more instructions at a place. This makes no difference, since the bound is never
reached: each instruction is followed once at a place and leads to two others at most.

Main statements: `Program.follow_congr` and `Program.matchLength?_startCheck`.
-/

namespace Lookahead

namespace Program

variable {program : Program} {code : Array Instruction} {place bound bound' : Nat}
  {before after : Option Char} {ways : List Nat} {frontier : Frontier}

/-! ### The bound is not felt -/

/-- How many instructions were not reached yet at the place. -/
def unentered (place : Nat) (entered : Array Nat) : Nat := entered.countP (· != place)

/-- An instruction that is reached for the first time makes those that were not reached fewer. -/
theorem unentered_setIfInBounds {entered : Array Nat} {here : Nat} (inside : here < entered.size)
    (fresh : entered.getD here 0 ≠ place) :
    unentered place (entered.setIfInBounds here place) + 1 = unentered place entered := by
  have other : entered[here] ≠ place := by
    rwa [Array.getD_eq_getD_getElem?, Array.getElem?_eq_getElem inside, Option.getD_some] at fresh
  have positive : 0 < unentered place entered :=
    Array.countP_pos_iff.mpr ⟨entered[here], Array.getElem_mem inside, by simpa using other⟩
  rw [Array.setIfInBounds_def, dif_pos inside, unentered, Array.countP_set]
  simp only [bne_iff_ne, ne_eq, other, not_false_eq_true, if_true, bne_self_eq_false,
    Bool.false_eq_true, if_false]
  rw [unentered] at positive ⊢
  omega

/-- Any two bounds give the same that cover the ways and twice the instructions that were not
reached: a way that is taken from the list was reached before, or it is paid for by its
instruction, which leads to two others at most. -/
theorem follow_congr (sized : frontier.entered.size = code.size)
    (enough : ways.length + 2 * unentered place frontier.entered ≤ bound)
    (enough' : ways.length + 2 * unentered place frontier.entered ≤ bound') :
    follow code place before after bound ways frontier =
      follow code place before after bound' ways frontier := by
  induction bound generalizing bound' ways frontier with
  | zero =>
    obtain rfl : ways = [] := List.eq_nil_of_length_eq_zero (by omega)
    cases bound' <;> rfl
  | succ bound ih =>
    cases ways with
    | nil => cases bound' <;> rfl
    | cons here ways =>
      rw [List.length_cons] at enough enough'
      obtain ⟨bound', rfl⟩ : ∃ less, bound' = less + 1 := ⟨bound' - 1, by omega⟩
      rw [follow, follow]
      split
      next => exact ih sized (by omega) (by omega)
      next fresh =>
        have sized' : (frontier.entered.setIfInBounds here place).size = code.size := by
          rw [Array.size_setIfInBounds, sized]
        cases found : code[here]? with
        | none =>
          -- There is no such instruction, so nothing was reached.
          have outside : frontier.entered.setIfInBounds here place = frontier.entered := by
            rw [Array.setIfInBounds_def, dif_neg]
            have := Array.getElem?_eq_none_iff.mp found
            omega
          dsimp only
          rw [outside]
          exact ih sized (by dsimp only; omega) (by dsimp only; omega)
        | some instruction =>
          have inside := (Array.getElem?_eq_some_iff.mp found).1
          have fewer := unentered_setIfInBounds (sized ▸ inside) fresh
          cases instruction with
          | done => rfl
          | read set next => exact ih sized' (by dsimp only; omega) (by dsimp only; omega)
          | check assertion next =>
            dsimp only
            split
            · exact ih sized' (by simp only [List.length_cons]; omega)
                (by simp only [List.length_cons]; omega)
            · exact ih sized' (by dsimp only; omega) (by dsimp only; omega)
          | branch first second =>
            -- One way is replaced by two, and one instruction less is unreached.
            exact ih sized' (by simp only [List.length_cons]; omega)
              (by simp only [List.length_cons]; omega)

/-! ### What is found at a place -/

/-- What was found at the place about a program of `size` instructions: each way that waits was
found at an instruction of its own, and it goes on with one of them. -/
structure Frontier.Within (size place : Nat) (frontier : Frontier) : Prop where
  sized : frontier.entered.size = size
  few : frontier.threads.length + unentered place frontier.entered ≤ size
  next : ∀ thread ∈ frontier.threads, thread.next < size

theorem within_start {size : Nat} {entered : Array Nat} (sized : entered.size = size) :
    Frontier.Within size place { entered } where
  sized := sized
  few := by
    have most : unentered place entered ≤ entered.size := Array.countP_le_size
    rw [List.length_nil, Nat.zero_add, ← sized]
    exact most
  next := by simp

/-- An instruction that is reached for the first time may let one more way wait. -/
theorem Frontier.Within.enter {size here : Nat} (within : frontier.Within size place)
    (inside : here < size) (fresh : frontier.entered.getD here 0 ≠ place) (ended : Bool) :
    let entered := frontier.entered.setIfInBounds here place
    Frontier.Within size place ⟨entered, frontier.threads, ended⟩ ∧
      frontier.threads.length + 1 + unentered place entered ≤ size := by
  intro entered
  have fewer : unentered place entered + 1 = unentered place frontier.entered :=
    unentered_setIfInBounds (within.sized.symm ▸ inside) fresh
  have few := within.few
  refine ⟨⟨?_, ?_, within.next⟩, by omega⟩
  · rw [Array.size_setIfInBounds, within.sized]
  · dsimp only
    omega

theorem Linked.within_follow (linked : program.Linked)
    (within : frontier.Within program.code.size place) :
    (follow program.code place before after bound ways frontier).Within program.code.size
      place := by
  induction bound generalizing ways frontier with
  | zero => exact within
  | succ bound ih =>
    cases ways with
    | nil => exact within
    | cons here ways =>
      rw [follow]
      split
      next => exact ih within
      next fresh =>
        cases found : program.code[here]? with
        | none =>
          have outside : frontier.entered.setIfInBounds here place = frontier.entered := by
            rw [Array.setIfInBounds_def, dif_neg]
            have := Array.getElem?_eq_none_iff.mp found
            rw [within.sized]
            omega
          dsimp only
          rw [outside]
          exact ih within
        | some instruction =>
          have inside := (Array.getElem?_eq_some_iff.mp found).1
          have below := linked.code here instruction found
          obtain ⟨entered, room⟩ := within.enter inside fresh frontier.ended
          cases instruction with
          | done => exact (within.enter inside fresh true).1
          | read set next =>
            -- The way that waits now has taken the place of its instruction in the count.
            refine ih ⟨entered.sized, by simpa using room, ?_⟩
            exact List.forall_mem_cons.mpr ⟨below, within.next⟩
          | check assertion next => exact ih entered
          | branch first second => exact ih entered

/-! ### A check in front -/

/-- What was found, with a last instruction that was reached at the place `last`. -/
def Frontier.withLast (frontier : Frontier) (last : Nat) : Frontier :=
  { frontier with entered := frontier.entered.push last }

theorem setIfInBounds_push {entered : Array Nat} {here last : Nat} (inside : here < entered.size)
    (place : Nat) : (entered.push last).setIfInBounds here place =
      (entered.setIfInBounds here place).push last := by
  have within : here < (entered.push last).size := by
    rw [Array.size_push]
    omega
  rw [Array.setIfInBounds_def, Array.setIfInBounds_def, dif_pos within, dif_pos inside,
    Array.set_push, dif_pos inside]

/-- From the instructions of a linked program a last one behind them is not reached. -/
theorem Linked.follow_push (linked : program.Linked) (instruction : Instruction) (last : Nat)
    (sized : frontier.entered.size = program.code.size)
    (inside : ∀ way ∈ ways, way < program.code.size) :
    follow (program.code.push instruction) place before after bound ways
        (frontier.withLast last) =
      (follow program.code place before after bound ways frontier).withLast last := by
  induction bound generalizing ways frontier with
  | zero => rfl
  | succ bound ih =>
    cases ways with
    | nil => rfl
    | cons here ways =>
      obtain ⟨first, others⟩ := List.forall_mem_cons.mp inside
      have same : (frontier.withLast last).entered.getD here 0 = frontier.entered.getD here 0 := by
        rw [Array.getD_eq_getD_getElem?, Array.getD_eq_getD_getElem?, Frontier.withLast,
          Array.getElem?_push, if_neg (by omega)]
      have entered : (frontier.withLast last).entered.setIfInBounds here place =
          (frontier.entered.setIfInBounds here place).push last :=
        setIfInBounds_push (sized ▸ first) place
      have onward {ways : List Nat} (threads : List Thread) (ended : Bool)
          (inside : ∀ way ∈ ways, way < program.code.size) :=
        @ih ways ⟨frontier.entered.setIfInBounds here place, threads, ended⟩
          (by rw [Array.size_setIfInBounds, sized]) inside
      rw [follow, follow, same, entered, Array.getElem?_push, if_neg (Nat.ne_of_lt first)]
      split
      next => exact ih sized others
      next =>
        cases found : program.code[here]? with
        | none => exact onward _ _ others
        | some instruction =>
          have below := linked.code here instruction found
          cases instruction with
          | done => rfl
          | read set next => exact onward _ _ others
          | check assertion next =>
            refine onward _ _ ?_
            split
            · exact List.forall_mem_cons.mpr ⟨below, others⟩
            · exact others
          | branch first second =>
            exact onward _ _
              (List.forall_mem_cons.mpr ⟨below.1, List.forall_mem_cons.mpr ⟨below.2, others⟩⟩)

/-- The bound covers the ways that come from a place in front, where each instruction let one way
wait at most. -/
theorem follow_of_bound_le (sized : frontier.entered.size = program.code.size)
    (few : ways.length ≤ program.code.size) (enough : program.bound ≤ bound) :
    follow program.code place before after bound ways frontier =
      follow program.code place before after program.bound ways frontier := by
  have most : unentered place frontier.entered ≤ frontier.entered.size := Array.countP_le_size
  rw [Program.bound] at *
  exact follow_congr sized (by omega) (by omega)

/-- The ways that go on behind a character are those that wait for it. -/
theorem foldl_threads (threads : List Thread) (c : Char) (ways : List Nat) :
    threads.foldl (fun ways thread =>
        if thread.set.contains c then thread.next :: ways else ways) ways =
      ((threads.filter (·.set.contains c)).map (·.next)).reverse ++ ways := by
  induction threads generalizing ways with
  | nil => rfl
  | cons thread threads ih =>
    rw [List.foldl_cons, ih, List.filter_cons]
    split <;> simp

/-- A last instruction behind those of a linked program makes no difference at a place. -/
theorem Linked.follow_add (linked : program.Linked) (instruction : Instruction) (last : Nat)
    {entered : Array Nat} (sized : entered.size = program.code.size)
    (few : ways.length ≤ program.code.size) (inside : ∀ way ∈ ways, way < program.code.size)
    (enough : program.bound ≤ bound) :
    follow (program.add instruction).code place before after bound ways
        { entered := entered.push last } =
      (follow program.code place before after program.bound ways { entered }).withLast last := by
  rw [← follow_of_bound_le sized few enough]
  change follow _ _ _ _ _ _ (Frontier.withLast { entered } last) = _
  exact linked.follow_push instruction last sized inside

/-- A last instruction behind those of a linked program makes no difference to what is matched. -/
theorem Linked.advance_add (linked : program.Linked) (instruction : Instruction) (last : Nat)
    {read : Nat} {best : Option Nat} {entered : Array Nat} (text : List Char)
    (sized : entered.size = program.code.size) (few : ways.length ≤ program.code.size)
    (inside : ∀ way ∈ ways, way < program.code.size) :
    (program.add instruction).advance read best before ways (entered.push last) text =
      program.advance read best before ways entered text := by
  have larger : program.bound ≤ (program.add instruction).bound := by
    rw [Program.bound, Program.bound, size_add]
    omega
  induction text generalizing read best before ways entered with
  | nil =>
    rw [advance, advance, linked.follow_add instruction last sized few inside larger]
    rfl
  | cons c rest ih =>
    rw [advance, advance, linked.follow_add instruction last sized few inside larger]
    have within : Frontier.Within program.code.size (read + 1)
        (follow program.code (read + 1) before (some c) program.bound ways { entered }) :=
      linked.within_follow (within_start sized)
    -- The ways behind the character come from threads, of which there is one for each instruction.
    generalize follow program.code (read + 1) before (some c) program.bound ways { entered } =
      frontier at within
    simp only [Frontier.withLast, foldl_threads, List.append_nil]
    split
    · rfl
    · refine ih within.sized ?_ fun way member => ?_
      · have shorter := List.length_filter_le (·.set.contains c) frontier.threads
        have few := within.few
        rw [List.length_reverse, List.length_map]
        omega
      · simp only [List.mem_reverse, List.mem_map, List.mem_filter] at member
        obtain ⟨thread, ⟨waits, -⟩, rfl⟩ := member
        exact within.next thread waits

/-- What is matched depends on what is found at the first place. -/
theorem advance_congr {read : Nat} {best : Option Nat} {ways' : List Nat}
    {entered entered' : Array Nat} (text : List Char)
    (same : ∀ after, follow program.code (read + 1) before after program.bound ways { entered } =
      follow program.code (read + 1) before after program.bound ways' { entered := entered' }) :
    program.advance read best before ways entered text =
      program.advance read best before ways' entered' text := by
  cases text <;> rw [advance, advance, same]

/-- The program behind a check for the start of the text. -/
def startCheck (program : Program) : Program := program.add (.check .textStart program.start)

/-- At the start of the text the check is passed, and there is nothing before it. -/
theorem follow_startCheck (program : Program) (after : Option Char) (bound : Nat)
    {entered : Array Nat} (sized : entered.size = program.code.size) :
    follow program.startCheck.code 1 none after (bound + 1) [program.startCheck.start]
        { entered := entered.push 0 } =
      follow program.startCheck.code 1 none after bound [program.start]
        { entered := entered.push 1 } := by
  have reached : program.startCheck.code[program.code.size]? =
      some (.check .textStart program.start) := Array.getElem?_push_size
  have fresh : (entered.push 0).getD program.code.size 0 = 0 := by
    rw [← sized, Array.getD_eq_getD_getElem?, Array.getElem?_push_size, Option.getD_some]
  have entering : (entered.push 0).setIfInBounds program.code.size 1 = entered.push 1 := by
    rw [← sized, Array.setIfInBounds_def, dif_pos (by simp), Array.set_push, dif_neg (by simp)]
  rw [show program.startCheck.start = program.code.size from rfl, follow, reached, fresh, entering]
  rfl

/-- At the start of the text a check for it makes no difference. -/
theorem Linked.matchLength?_startCheck (linked : program.Linked) (text : List Char) :
    program.startCheck.matchLength? none text = program.matchLength? none text := by
  let entered : Array Nat := .replicate program.code.size 0
  have sized : entered.size = program.code.size := Array.size_replicate
  have few : [program.start].length ≤ program.code.size :=
    Nat.lt_of_le_of_lt (Nat.zero_le _) linked.start
  have inside : ∀ way ∈ [program.start], way < program.code.size :=
    List.forall_mem_singleton.mpr linked.start
  have size : program.startCheck.code.size = program.code.size + 1 := size_add _ _
  have bound : program.startCheck.bound = program.bound + 2 + 1 := by
    rw [Program.bound, Program.bound, size]
    omega
  have passed (after : Option Char) :
      follow program.startCheck.code 1 none after program.startCheck.bound
          [program.startCheck.start] { entered := entered.push 0 } =
        follow program.startCheck.code 1 none after program.startCheck.bound [program.start]
          { entered := entered.push 1 } := by
    rw [bound, follow_startCheck program after _ sized, startCheck,
      linked.follow_add _ 1 sized few inside (Nat.le_add_right _ 2),
      linked.follow_add _ 1 sized few inside (Nat.le_add_right _ 3)]
  -- Only the first place is reached from the check. Behind it the program is as it was, with an
  -- instruction that nothing leads to.
  rw [matchLength?, matchLength?, size, Array.replicate_succ]
  rw [advance_congr text passed]
  exact linked.advance_add _ 1 text sized few inside

/-! ### Searching -/

theorem passed_le_of_findFrom {anchored : Bool} {passed skipped length : Nat}
    {before : Option Char} {text : List Char}
    (found : program.findFrom anchored passed before text = some (skipped, length)) :
    passed ≤ skipped := by
  induction text generalizing passed before with
  | nil =>
    obtain ⟨taken, -, same⟩ := Option.map_eq_some_iff.mp found
    cases same
    exact Nat.le_refl _
  | cons c rest ih =>
    rw [findFrom] at found
    split at found
    next =>
      cases found
      exact Nat.le_refl _
    next =>
      split at found
      · cases found
      · exact Nat.le_of_succ_le (ih found)

end Program

namespace Searcher

variable {searcher : Searcher} {text : List Char} {length : Nat}

/-- What is found at the start of the text is the match there. -/
theorem find?_eq_start : searcher.find? text = some (0, length) ↔
    searcher.program.matchLength? none text = some length := by
  rw [find?]
  cases text with
  | nil => simp [Program.findFrom]
  | cons c rest =>
    rw [Program.findFrom]
    cases searcher.program.matchLength? none (c :: rest) with
    | some taken => simp
    | none =>
      -- What is found further on is behind the start.
      refine iff_of_false (fun found => ?_) (by simp)
      dsimp only at found
      split at found
      · cases found
      · exact absurd (Program.passed_le_of_findFrom found) (by simp)

/-- Nothing but a match at the start is found if a match can only be there. -/
theorem find?_of_anchored (anchored : searcher.anchored = true) :
    searcher.find? text = (searcher.program.matchLength? none text).map (0, ·) := by
  rw [find?, anchored]
  cases text with
  | nil => rfl
  | cons c rest =>
    rw [Program.findFrom]
    cases searcher.program.matchLength? none (c :: rest) <;> rfl

end Searcher

end Lookahead
