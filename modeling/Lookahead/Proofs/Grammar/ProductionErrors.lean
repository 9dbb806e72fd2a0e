import Lookahead.Proofs.Grammar.ProductionWriting

/-!
# Errors in production text

Which symbols can come next in production text depends on little of what stands in front of them:
on the brackets that are open, and on what the last symbol was. A machine that remembers just this
goes over the symbols of any text that can be read, and it can be led to an end from wherever it is.
The readers keep to this machine. Where one of them gives up, the machine cannot go over the next
symbol either, so no other text that begins with the same symbols can be read.

Main statement: `ProductionText.stops_at_first_wrong_symbol`.
-/

namespace Lookahead

namespace ProductionText

/-! ### What can come next -/

/-- The brackets that items can stand in. -/
inductive Bracket where
  | round
  | square
  deriving DecidableEq

/-- The mark that ends what the bracket opened. -/
def Bracket.closing : Bracket → Char
  | .round => ')'
  | .square => ']'

/-- What the last symbol was: none yet, the name of the rule, a symbol behind which only a new item
can start, a name among the items, the colon behind a label, or a closing bracket. -/
inductive Phase where
  | start
  | headed
  -- Behind the colon of the rule, an opening bracket, a bar or a sign nothing goes on with an item.
  | fresh
  | named
  | labelled
  | closed

/-- Whether items can end behind the symbol, and another item can start there. -/
def Phase.ready : Phase → Bool
  | .fresh | .named | .closed => true
  | .start | .headed | .labelled => false

/-- What has to be known of symbols to tell what can come behind them: what the last one was, and
which brackets are open, the inner ones first. -/
structure Prospect where
  phase : Phase
  opened : List Bracket

/-- What a symbol that goes on with an item leads to. -/
def goOn? : Phase → Symbol → Option Phase
  | .named, .mark c =>
    if c = ':' then some .labelled else if c ∈ ['*', '+', '?'] then some .fresh else none
  | .closed, .mark c => if c ∈ ['*', '+', '?'] then some .fresh else none
  | _, _ => none

/-- What a symbol that starts an item leads to. -/
def begin? (opened : List Bracket) : Symbol → Option Prospect
  | .name _ => some ⟨.named, opened⟩
  | .mark c =>
    if c = '(' then some ⟨.fresh, .round :: opened⟩
    else if c = '[' then some ⟨.fresh, .square :: opened⟩
    else none

/-- What a symbol that ends the items behind an open bracket, or behind a bar, leads to. -/
def end? : List Bracket → Symbol → Option Prospect
  | [], _ => none
  | bracket :: outer, symbol =>
    if symbol = .mark bracket.closing then some ⟨.closed, outer⟩
    else if bracket = .square ∧ symbol = .mark '|' then some ⟨.fresh, bracket :: outer⟩
    else none

namespace Prospect

/-- The step over a symbol, if it can come next. -/
def step : Prospect → Symbol → Option Prospect
  | ⟨.start, opened⟩, .name _ => some ⟨.headed, opened⟩
  | ⟨.start, _⟩, .mark _ => none
  | ⟨.headed, opened⟩, symbol => if symbol = .mark ':' then some ⟨.fresh, opened⟩ else none
  | ⟨.labelled, opened⟩, symbol =>
    if symbol = .mark '(' then some ⟨.fresh, .round :: opened⟩ else none
  | ⟨phase, opened⟩, symbol =>
    ((goOn? phase symbol).map (⟨·, opened⟩)).or ((begin? opened symbol).or (end? opened symbol))

/-- The steps over symbols, if each of them can come next. -/
def run : Prospect → List Symbol → Option Prospect
  | prospect, [] => some prospect
  | prospect, symbol :: rest => (prospect.step symbol).bind (run · rest)

/-- The text can end here. -/
def Complete (prospect : Prospect) : Prop := prospect.phase.ready = true ∧ prospect.opened = []

/-- The first of the symbols cannot come next, or there is none and the text cannot end. -/
def Blocked (prospect : Prospect) : List Symbol → Prop
  | [] => ¬ prospect.Complete
  | symbol :: _ => prospect.step symbol = none

@[simp] theorem run_nil (prospect : Prospect) : prospect.run [] = some prospect := rfl

@[simp] theorem run_cons (prospect : Prospect) (symbol : Symbol) (rest : List Symbol) :
    prospect.run (symbol :: rest) = (prospect.step symbol).bind (run · rest) := rfl

@[simp] theorem run_append (prospect : Prospect) (front rest : List Symbol) :
    prospect.run (front ++ rest) = (prospect.run front).bind (run · rest) := by
  induction front generalizing prospect with
  | nil => rfl
  | cons symbol front ih =>
    rw [List.cons_append, run_cons, run_cons, Option.bind_assoc]
    exact Option.bind_congr fun next _ => ih next

theorem not_blocked_of_run {prospect spot last : Prospect} {front rest : List Symbol}
    (here : prospect.run front = some spot) (passed : prospect.run (front ++ rest) = some last)
    (complete : last.Complete) : ¬ spot.Blocked rest := by
  rw [run_append, here, Option.bind_some] at passed
  intro blocked
  cases rest with
  | nil =>
    cases passed
    exact blocked complete
  | cons symbol rest =>
    rw [run_cons, blocked] at passed
    cases passed

/-! ### Steps between items -/

variable {phase : Phase} {opened : List Bracket} {symbol : Symbol} {next : Prospect}

theorem step_of_ready (ready : phase.ready = true) (opened : List Bracket) (symbol : Symbol) :
    step ⟨phase, opened⟩ symbol =
      ((goOn? phase symbol).map (⟨·, opened⟩)).or
        ((begin? opened symbol).or (end? opened symbol)) := by
  cases phase with
  | fresh | named | closed => rfl
  | start | headed | labelled => cases ready

theorem begin?_eq_none_iff : begin? opened symbol = none ↔ symbol.opens = false := by
  cases symbol with
  | name text => simp [begin?, Symbol.opens]
  | mark c =>
    simp only [begin?, Symbol.opens]
    split_ifs <;> simp [*]

theorem goOn?_of_opens (opens : symbol.opens = true) (phase : Phase) :
    goOn? phase symbol = none := by
  cases symbol with
  | name text => cases phase <;> rfl
  | mark c =>
    have bracket : c = '(' ∨ c = '[' := by simpa [Symbol.opens] using opens
    rcases bracket with rfl | rfl <;> cases phase <;> rfl

theorem step_begin (ready : phase.ready = true) (begins : begin? opened symbol = some next) :
    step ⟨phase, opened⟩ symbol = some next := by
  have opens : symbol.opens = true := by
    by_contra shut
    rw [Bool.not_eq_true, ← begin?_eq_none_iff] at shut
    cases begins.symm.trans shut
  rw [step_of_ready ready, goOn?_of_opens opens, begins]
  rfl

theorem step_end (ready : phase.ready = true) (ends : end? opened symbol = some next) :
    step ⟨phase, opened⟩ symbol = some next := by
  -- What ends items neither goes on with one nor starts one.
  have marks : symbol = .mark ')' ∨ symbol = .mark ']' ∨ symbol = .mark '|' := by
    cases opened with
    | nil => cases ends
    | cons bracket outer =>
      rw [end?] at ends
      split_ifs at ends with closing bar
      · cases bracket
        · exact .inl closing
        · exact .inr (.inl closing)
      · exact .inr (.inr bar.2)
  have others : goOn? phase symbol = none ∧ begin? opened symbol = none := by
    rcases marks with rfl | rfl | rfl <;> cases phase <;> exact ⟨rfl, rfl⟩
  rw [step_of_ready ready, others.1, others.2, ends]
  rfl

/-! ### A way to the end -/

/-- The closing marks of the brackets. -/
def closings (opened : List Bracket) : List Symbol := opened.map (.mark ·.closing)

/-- Symbols that lead to where items can end, `spare` naming the rule if it has no name yet. -/
def lead (spare : String) : Phase → List Symbol
  | .start => [.name spare, .mark ':']
  | .headed => [.mark ':']
  | .labelled => [.mark '(', .mark ')']
  | .fresh | .named | .closed => []

/-- Symbols that lead to an end. -/
def ending (spare : String) (prospect : Prospect) : List Symbol :=
  lead spare prospect.phase ++ closings prospect.opened

theorem run_closings {phase : Phase} (ready : phase.ready = true) (opened : List Bracket) :
    ∃ last, run ⟨phase, opened⟩ (closings opened) = some last ∧ last.Complete := by
  induction opened generalizing phase with
  | nil => exact ⟨_, rfl, ready, rfl⟩
  | cons bracket outer ih =>
    have closed : Phase.closed.ready = true := rfl
    obtain ⟨last, passed, complete⟩ := ih closed
    have ends : end? (bracket :: outer) (.mark bracket.closing) = some ⟨.closed, outer⟩ :=
      if_pos rfl
    exact ⟨last, by simp [closings, step_end ready ends, ← passed], complete⟩

theorem run_ending (spare : String) (prospect : Prospect) :
    ∃ last, prospect.run (prospect.ending spare) = some last ∧ last.Complete := by
  obtain ⟨phase, opened⟩ := prospect
  have fresh : Phase.fresh.ready = true := rfl
  have closed : Phase.closed.ready = true := rfl
  cases phase with
  | fresh | named | closed => exact run_closings rfl opened
  | start | headed => exact run_closings fresh opened
  | labelled => exact run_closings closed opened

end Prospect

/-! ### Outcomes of readers -/

/-- The machine goes over the symbols up to `rest`, and what can come there is in `leaves`. -/
def Reaches (start : Prospect) (symbols rest : List Located) (leaves : Prospect → Prop) : Prop :=
  ∃ front spot, symbols = front ++ rest ∧ start.run (front.map (·.1)) = some spot ∧ leaves spot

/-- A reader keeps to the machine from `start` on. It passes over symbols that the machine goes
over, and if it gives an error, the machine is blocked there. -/
def Keeps {α : Type} (start : Prospect) (symbols : List Located)
    (leaves : List Located → Prospect → Prop) : Except ReadError (α × List Located) → Prop
  | .ok (_, rest) => Reaches start symbols rest (leaves rest)
  | .error error => ∃ wanted rest, error = .unexpected wanted rest.head? ∧
      Reaches start symbols rest (·.Blocked (rest.map (·.1)))

section Keeping

variable {α β : Type} {start next : Prospect} {symbols rest : List Located}
  {leaves middle : List Located → Prospect → Prop}

theorem Reaches.refl {leaves : Prospect → Prop} (left : leaves start) :
    Reaches start symbols symbols leaves :=
  ⟨[], start, rfl, rfl, left⟩

theorem Reaches.trans {between : List Located} {middle leaves : Prospect → Prop}
    (first : Reaches start symbols between middle)
    (later : ∀ spot, middle spot → Reaches spot between rest leaves) :
    Reaches start symbols rest leaves := by
  obtain ⟨front, spot, rfl, passed, between⟩ := first
  obtain ⟨back, last, rfl, onward, left⟩ := later spot between
  exact ⟨front ++ back, last, by simp, by simp [passed, onward], left⟩

theorem Reaches.step {symbol : Symbol} (passed : start.step symbol = some next) (offset : Nat)
    (behind : List Located) :
    Reaches start ((symbol, offset) :: behind) behind (· = next) :=
  ⟨[(symbol, offset)], next, rfl, by simp [passed], rfl⟩

theorem Keeps.behind {result : Except ReadError (α × List Located)} {middle : Prospect → Prop}
    (first : Reaches start symbols rest middle)
    (later : ∀ spot, middle spot → Keeps spot rest leaves result) :
    Keeps start symbols leaves result := by
  cases result with
  | ok found => exact first.trans later
  | error error =>
    obtain ⟨front, spot, rfl, passed, between⟩ := first
    obtain ⟨wanted, last, same, stops⟩ := later spot between
    have here : Reaches start (front ++ rest) rest (· = spot) := ⟨front, spot, rfl, passed, rfl⟩
    exact ⟨wanted, last, same, here.trans fun other same => same ▸ stops⟩

theorem Reaches.length_le {leaves : Prospect → Prop}
    (reaches : Reaches start symbols rest leaves) : rest.length ≤ symbols.length := by
  obtain ⟨front, spot, rfl, -⟩ := reaches
  simp

theorem Keeps.mono {result : Except ReadError (α × List Located)}
    (keeps : Keeps start symbols middle result)
    (weaker : ∀ rest spot, middle rest spot → leaves rest spot) :
    Keeps start symbols leaves result := by
  cases result with
  | ok found => exact keeps.trans fun spot between => .refl (weaker _ spot between)
  | error error => exact keeps

theorem Keeps.bind {first : Except ReadError (α × List Located)}
    {onward : α × List Located → Except ReadError (β × List Located)}
    (keeps : Keeps start symbols middle first)
    (later : ∀ value rest spot, first = .ok (value, rest) → rest.length ≤ symbols.length →
      middle rest spot → Keeps spot rest leaves (onward (value, rest))) :
    Keeps start symbols leaves (first >>= onward) := by
  cases first with
  | ok found =>
    exact .behind keeps fun spot between => later _ _ spot rfl (Reaches.length_le keeps) between
  | error error => exact keeps

theorem Keeps.step {result : Except ReadError (α × List Located)} {symbol : Symbol} {offset : Nat}
    (passed : start.step symbol = some next) (later : Keeps next rest leaves result) :
    Keeps start ((symbol, offset) :: rest) leaves result :=
  .behind (.step passed offset rest) fun _ same => same ▸ later

theorem Keeps.done {value : α} (left : leaves symbols start) :
    Keeps start symbols leaves (.ok (value, symbols)) :=
  .refl left

theorem keeps_unexpected (blocked : start.Blocked (symbols.map (·.1))) (wanted : Wanted) :
    Keeps (α := α) start symbols leaves (unexpected wanted symbols) :=
  ⟨wanted, symbols, rfl, .refl blocked⟩

theorem expectMark_of_ne {c : Char}
    (other : ∀ offset behind, symbols ≠ (.mark c, offset) :: behind) :
    expectMark c symbols = unexpected (.mark c) symbols := by
  unfold expectMark
  split
  next found offset behind =>
    have different : found ≠ c := by
      rintro rfl
      exact other offset behind rfl
    rw [if_neg different]
  next => rfl

theorem keeps_expectMark {c : Char} {onward : List Located → Except ReadError (α × List Located)}
    (passed : start.step (.mark c) = some next)
    (blocked : (∀ offset behind, symbols ≠ (.mark c, offset) :: behind) →
      start.Blocked (symbols.map (·.1)))
    (later : ∀ rest, Keeps next rest leaves (onward rest)) :
    Keeps start symbols leaves (expectMark c symbols >>= onward) := by
  by_cases there : ∃ offset rest, symbols = (.mark c, offset) :: rest
  · obtain ⟨offset, rest, rfl⟩ := there
    rw [expectMark_eq_ok_iff.mpr ⟨offset, rfl⟩]
    exact .step passed (later rest)
  · have other : ∀ offset behind, symbols ≠ (.mark c, offset) :: behind :=
      fun offset behind same => there ⟨offset, behind, same⟩
    rw [expectMark_of_ne other]
    exact keeps_unexpected (blocked other) (.mark c)

end Keeping

/-! ### Readers -/

/-- Nothing in front of these symbols goes on with an item, though items could end there. -/
def Phase.Rests (phase : Phase) (rest : List Symbol) : Prop :=
  phase.ready = true ∧ ∀ symbol ∈ rest.head?, goOn? phase symbol = none

/-- Inside of these brackets, items have come to an end in front of these symbols. -/
def Idle (opened : List Bracket) (rest : List Located) (spot : Prospect) : Prop :=
  ∃ phase, spot = ⟨phase, opened⟩ ∧ phase.Rests (rest.map (·.1)) ∧
    ∀ symbol ∈ (rest.map (·.1)).head?, symbol.opens = false

theorem Idle.blocked {opened : List Bracket} {rest : List Located} {spot : Prospect}
    (idle : Idle opened rest spot) (unfinished : rest = [] → opened ≠ [])
    (unended : ∀ symbol ∈ (rest.map (·.1)).head?, end? opened symbol = none) :
    spot.Blocked (rest.map (·.1)) := by
  obtain ⟨phase, rfl, ⟨ready, rests⟩, idle⟩ := idle
  cases rest with
  | nil => exact fun complete => unfinished rfl complete.2
  | cons first rest =>
    obtain ⟨symbol, offset⟩ := first
    have begins : begin? opened symbol = none := Prospect.begin?_eq_none_iff.mpr (idle _ rfl)
    change Prospect.step ⟨phase, opened⟩ symbol = none
    rw [Prospect.step_of_ready ready, rests _ rfl, begins, unended _ rfl]
    rfl

variable {K : Type} {kind? : String → Option K} {inner : ItemsReader K} {length : Nat}

/-- The reader of items keeps to the machine on so many symbols. -/
def KeepsItems (inner : ItemsReader K) (length : Nat) : Prop :=
  ∀ (phase : Phase) (opened : List Bracket) (symbols : List Located), symbols.length ≤ length →
    phase.Rests (symbols.map (·.1)) → Keeps ⟨phase, opened⟩ symbols (Idle opened) (inner symbols)

theorem rests_fresh (rest : List Symbol) : Phase.fresh.Rests rest := ⟨rfl, fun _ _ => rfl⟩

theorem ne_mark_of_head? {c : Char} {symbols : List Located}
    (other : ∀ offset behind, symbols ≠ (.mark c, offset) :: behind) :
    ∀ symbol ∈ (symbols.map (·.1)).head?, symbol ≠ .mark c := by
  rintro symbol member rfl
  cases symbols with
  | nil => cases member
  | cons first behind =>
    obtain ⟨symbol, offset⟩ := first
    cases member
    exact other offset behind rfl

/-- Where only one mark can come, the machine is blocked by anything else. -/
theorem blocked_of_only {spot : Prospect} {c : Char} {symbols : List Located}
    (unready : spot.phase.ready = false)
    (only : ∀ symbol, symbol ≠ .mark c → spot.step symbol = none)
    (other : ∀ offset behind, symbols ≠ (.mark c, offset) :: behind) :
    spot.Blocked (symbols.map (·.1)) := by
  cases symbols with
  | nil =>
    intro complete
    cases unready.symm.trans complete.1
  | cons first behind => exact only _ (ne_mark_of_head? other _ rfl)

theorem keeps_readParenthesised (keeps : KeepsItems inner length) (opened : List Bracket)
    {symbols : List Located} (enough : symbols.length ≤ length) :
    Keeps ⟨.fresh, .round :: opened⟩ symbols (fun _ spot => spot = ⟨.closed, opened⟩)
      (readParenthesised inner symbols) := by
  refine (keeps .fresh (.round :: opened) symbols enough (rests_fresh _)).bind
    fun clauses rest spot _ _ idle => ?_
  have stuck := idle.blocked fun _ => List.cons_ne_nil _ _
  obtain ⟨phase, rfl, ⟨ready, -⟩, -⟩ := idle
  refine keeps_expectMark (Prospect.step_end ready rfl) (fun other => stuck fun symbol next => ?_)
    fun rest => .done rfl
  simp [end?, Bracket.closing, ne_mark_of_head? other symbol next]

theorem keeps_readBranches (keeps : KeepsItems inner length) (opened : List Bracket) {bound : Nat}
    {symbols : List Located} (enough : symbols.length ≤ length) (ample : symbols.length < bound) :
    Keeps ⟨.fresh, .square :: opened⟩ symbols (fun _ spot => spot = ⟨.closed, opened⟩)
      (readBranches inner bound symbols) := by
  induction bound generalizing symbols with
  | zero => exact absurd ample (Nat.not_lt_zero _)
  | succ bound ih =>
    unfold readBranches
    refine (keeps .fresh (.square :: opened) symbols enough (rests_fresh _)).bind
      fun clauses rest spot _ shorter idle => ?_
    have stuck := idle.blocked fun _ => List.cons_ne_nil _ _
    obtain ⟨phase, rfl, ⟨ready, -⟩, -⟩ := idle
    dsimp only
    -- A bar takes the machine to the next branch. Without one, only the bracket ends the items.
    split
    next offset others _ =>
      rw [List.length_cons] at shorter
      have onward : Keeps ⟨.fresh, .square :: opened⟩ others
          (fun _ spot => spot = ⟨.closed, opened⟩) (readBranches inner bound others) :=
        ih (by omega) (by omega)
      exact .step (Prospect.step_end ready rfl)
        (onward.bind fun branches rest spot _ _ closed => .done closed)
    next no_bar =>
      refine keeps_expectMark (Prospect.step_end ready rfl)
        (fun other => stuck fun symbol next => ?_) fun rest => .done rfl
      simp [end?, Bracket.closing, ne_mark_of_head? other symbol next,
        ne_mark_of_head? (fun offset behind => no_bar offset behind) symbol next]

theorem keeps_readAtom (keeps : KeepsItems inner length) {phase : Phase}
    (ready : phase.ready = true) (opened : List Bracket) {symbols : List Located}
    (starts : startsItem symbols = true) (enough : symbols.length ≤ length + 1) :
    Keeps ⟨phase, opened⟩ symbols
      (fun rest spot => spot = ⟨.closed, opened⟩ ∨
        spot = ⟨.named, opened⟩ ∧ ∀ symbol ∈ (rest.map (·.1)).head?, symbol ≠ .mark ':')
      (readAtom kind? inner symbols) := by
  unfold readAtom
  split
  next label first second rest =>
    have colon : Prospect.step ⟨.named, opened⟩ (.mark ':') = some ⟨.labelled, opened⟩ := rfl
    refine .step (Prospect.step_begin ready rfl) (.step colon ?_)
    split
    next third body =>
      have group : Prospect.step ⟨.labelled, opened⟩ (.mark '(') =
          some ⟨.fresh, .round :: opened⟩ := rfl
      have short : body.length ≤ length := by
        simp only [List.length_cons] at enough
        omega
      exact .step group ((keeps_readParenthesised keeps opened short).bind
        fun items rest spot _ _ closed => .done (.inl closed))
    next no_group =>
      -- Behind a label nothing but a group can come.
      have only : ∀ symbol, symbol ≠ .mark '(' →
          Prospect.step ⟨.labelled, opened⟩ symbol = none := fun _ other => if_neg other
      exact keeps_unexpected (blocked_of_only rfl only fun offset behind => no_group offset behind)
        .groupBody
  next name offset rest no_colon =>
    -- A name with a colon behind it would have been read as a label.
    refine .step (Prospect.step_begin ready rfl) (.done (.inr ⟨rfl, ?_⟩))
    exact ne_mark_of_head? fun second behind same => no_colon second behind (same ▸ rfl)
  next offset rest =>
    have short : rest.length ≤ length := Nat.le_of_succ_le_succ enough
    exact .step (Prospect.step_begin ready rfl)
      ((keeps_readParenthesised keeps opened short).mono fun _ _ closed => .inl closed)
  next offset rest =>
    have short : rest.length ≤ length := Nat.le_of_succ_le_succ enough
    exact .step (Prospect.step_begin ready rfl)
      ((keeps_readBranches keeps opened short (Nat.lt_succ_self _)).bind
        fun branches rest spot _ _ closed => .done (.inl closed))
  next no_label no_name no_round no_square =>
    -- No item starts with what is left.
    unfold startsItem at starts
    split at starts
    next name offset rest => exact (no_name name offset rest rfl).elim
    next offset rest => exact (no_round offset rest rfl).elim
    next offset rest => exact (no_square offset rest rfl).elim
    next => cases starts

theorem keeps_readItem (keeps : KeepsItems inner length) {phase : Phase}
    (ready : phase.ready = true) (opened : List Bracket) {symbols : List Located}
    (starts : startsItem symbols = true) (enough : symbols.length ≤ length + 1) :
    Keeps ⟨phase, opened⟩ symbols
      (fun rest spot => ∃ phase : Phase, spot = ⟨phase, opened⟩ ∧ phase.Rests (rest.map (·.1)))
      (readItem kind? inner symbols) := by
  unfold readItem
  refine (keeps_readAtom keeps ready opened starts enough).bind fun atom rest spot _ _ left => ?_
  have signed : ∀ c ∈ ['*', '+', '?'], spot.step (.mark c) = some ⟨.fresh, opened⟩ := by
    rcases left with rfl | ⟨rfl, -⟩ <;> simp [Prospect.step, goOn?]
  dsimp only
  split
  next => exact .step (signed '*' (by simp)) (.done ⟨.fresh, rfl, rests_fresh _⟩)
  next => exact .step (signed '+' (by simp)) (.done ⟨.fresh, rfl, rests_fresh _⟩)
  next => exact .step (signed '?' (by simp)) (.done ⟨.fresh, rfl, rests_fresh _⟩)
  next no_star no_plus no_question =>
    have star := ne_mark_of_head? (fun offset behind => no_star offset behind)
    have plus := ne_mark_of_head? (fun offset behind => no_plus offset behind)
    have question := ne_mark_of_head? (fun offset behind => no_question offset behind)
    -- No sign follows, so nothing that comes next goes on with the item.
    have unsigned : ∀ c, .mark c ∈ (rest.map (·.1)).head? → c ∉ ['*', '+', '?'] := by
      intro c next sign
      simp only [List.mem_cons, List.not_mem_nil, or_false] at sign
      rcases sign with rfl | rfl | rfl
      · exact star _ next rfl
      · exact plus _ next rfl
      · exact question _ next rfl
    refine .done ?_
    rcases left with rfl | ⟨rfl, no_colon⟩
    · refine ⟨.closed, rfl, rfl, fun symbol next => ?_⟩
      cases symbol with
      | name text => rfl
      | mark c => exact if_neg (unsigned c next)
    · refine ⟨.named, rfl, rfl, fun symbol next => ?_⟩
      cases symbol with
      | name text => rfl
      | mark c =>
        have other : c ≠ ':' := fun same => no_colon _ next (congrArg Symbol.mark same)
        exact (if_neg other).trans (if_neg (unsigned c next))

theorem keepsItems_readItems (kind? : String → Option K) (bound : Nat) :
    KeepsItems (readItems kind? bound) bound := by
  induction bound with
  | zero =>
    intro phase opened symbols enough rests
    obtain rfl := List.eq_nil_of_length_eq_zero (Nat.le_zero.mp enough)
    exact .done ⟨phase, rfl, rests, fun _ next => nomatch next⟩
  | succ bound ih =>
    intro phase opened symbols enough rests
    unfold readItems
    split
    next starts =>
      refine (keeps_readItem ih rests.1 opened starts enough).bind
        fun item rest spot read _ left => ?_
      -- An item takes a symbol, so the bound that is left covers what is behind it.
      have shorter := (readItem_sound (readItems_sound kind? bound) read).length_lt
      obtain ⟨phase, rfl, rests⟩ := left
      exact (ih phase opened rest (by omega) rests).bind fun items rest spot _ _ idle => .done idle
    next ends =>
      refine .done ⟨phase, rfl, rests, fun symbol next => ?_⟩
      rw [startsItem_eq, next] at ends
      simpa using ends

/-! ### Whole productions -/

/-- Where nothing was read yet. -/
def Prospect.initial : Prospect := ⟨.start, []⟩

/-- The reader of productions keeps to the machine, unless the symbols begin with the name of a
token kind. It leaves no symbol. -/
theorem keeps_readSymbols {symbols : List Located}
    (free : ∀ name, (symbols.map (·.1)).head? = some (.name name) → kind? name = none) :
    Keeps .initial symbols (fun rest spot => rest = [] ∧ spot.Complete)
      ((·, []) <$> readSymbols kind? symbols) := by
  unfold readSymbols
  split
  next name offset rest =>
    rw [free name rfl]
    simp only [Option.isSome_none, Bool.false_eq_true, if_false, map_bind]
    have head : Prospect.step .initial (.name name) = some ⟨.headed, []⟩ := rfl
    have colon : Prospect.step ⟨.headed, []⟩ (.mark ':') = some ⟨.fresh, []⟩ := rfl
    refine .step head (keeps_expectMark colon ?_ ?_)
    · exact blocked_of_only rfl fun _ other => if_neg other
    · intro rest
      refine (keepsItems_readItems kind? _ .fresh [] rest (Nat.le_refl _) (rests_fresh _)).bind
        fun clauses rest spot _ _ idle => ?_
      -- No bracket is open behind the items, so the text can end, and nothing can end the items.
      cases rest with
      | nil =>
        obtain ⟨phase, rfl, ⟨ready, -⟩, -⟩ := idle
        exact .done ⟨rfl, ready, rfl⟩
      | cons first behind =>
        exact keeps_unexpected (idle.blocked (fun none => nomatch none) fun _ _ => rfl) .atom
  next no_name =>
    refine keeps_unexpected ?_ .ruleName
    cases symbols with
    | nil => exact fun complete => nomatch complete.1
    | cons first behind =>
      obtain ⟨_ | c, offset⟩ := first
      · exact (no_name _ _ _ rfl).elim
      · rfl

/-! ### Texts of given symbols -/

/-- The symbols with a blank in front of each. -/
def spelled (symbols : List Symbol) : List Char := symbols.flatMap fun symbol =>
  ' ' :: symbol.text.toList

theorem symbolsOf_spelled {symbols : List Symbol}
    (spells : ∀ symbol ∈ symbols, Spells symbol.text.toList [symbol]) :
    symbolsOf (spelled symbols) = symbols := by
  have whole : Spells (spelled symbols) symbols := by
    induction symbols with
    | nil => exact .nil
    | cons symbol symbols ih =>
      obtain ⟨first, later⟩ := List.forall_mem_cons.mp spells
      refine first.blank.append (ih later) ?_
      cases symbols with
      | nil => exact parts_nil
      | cons => exact parts_cons_iff.mpr (by decide)
  simpa [symbolsOf, scan, scanFrom, closeName] using whole [] parts_nil

theorem Scans.spells_of_mem {offset : Nat} {text : List Char} {located : List Located}
    (scans : Scans offset text located) {symbol : Symbol} (member : symbol ∈ located.map (·.1)) :
    Spells symbol.text.toList [symbol] := by
  induction scans with
  | nil => cases member
  | blank _ _ ih => exact ih member
  | name starts inside _ _ ih =>
    rcases List.mem_cons.mp member with rfl | later
    · exact .name ⟨_, _, String.toList_ofList, starts, inside⟩
    · exact ih later
  | mark other dark _ ih =>
    rcases List.mem_cons.mp member with rfl | later
    · simpa [Symbol.text] using Spells.mark other dark
    · exact ih later

theorem spells_of_mem_ending {spare : String} (named : IsName spare) {prospect : Prospect}
    {symbol : Symbol} (member : symbol ∈ prospect.ending spare) :
    Spells symbol.text.toList [symbol] := by
  have plain : ∀ c ∈ [':', '(', ')', ']'], startsName c = false ∧ Text.isWhiteSpace c = false := by
    intro c mark
    simp only [List.mem_cons, List.not_mem_nil, or_false] at mark
    rcases mark with rfl | rfl | rfl | rfl <;> decide
  have marks : ∀ c ∈ [':', '(', ')', ']'], Spells (Symbol.mark c).text.toList [.mark c] :=
    fun c mark => by simpa [Symbol.text] using Spells.mark (plain c mark).1 (plain c mark).2
  rcases List.mem_append.mp member with leads | closes
  · generalize prospect.phase = phase at leads
    cases phase with
    | start =>
      rcases List.mem_pair.mp leads with rfl | rfl
      · exact .name named
      · exact marks ':' (by simp)
    | headed =>
      obtain rfl := List.mem_singleton.mp leads
      exact marks ':' (by simp)
    | labelled => rcases List.mem_pair.mp leads with rfl | rfl <;> exact marks _ (by simp)
    | fresh | named | closed => cases leads
  · obtain ⟨bracket, -, rfl⟩ := List.mem_map.mp closes
    exact marks _ (by cases bracket <;> simp [Bracket.closing])

/-! ### The first wrong symbol -/

theorem run_of_read {text : List Char} {production : Production K}
    (done : read kind? text = .ok production) :
    ∃ last, Prospect.initial.run (symbolsOf text) = some last ∧ last.Complete := by
  obtain ⟨items, spelt, unknown, -⟩ := (readSymbols_eq_ok_iff kind? _ _).mp done
  have free : ∀ name, ((scan text).map (·.1)).head? = some (.name name) → kind? name = none := by
    rintro name first
    rw [spelt] at first
    cases first
    exact unknown
  have kept := keeps_readSymbols free
  rw [show readSymbols kind? (scan text) = .ok production from done] at kept
  obtain ⟨front, last, whole, passed, -, complete⟩ := kept
  rw [List.append_nil] at whole
  exact ⟨last, by rw [symbolsOf, whole, passed], complete⟩

theorem exists_read_of_run {text : List Char} {last : Prospect}
    (free : ∀ name, (symbolsOf text).head? = some (.name name) → kind? name = none)
    (passed : Prospect.initial.run (symbolsOf text) = some last) (complete : last.Complete) :
    ∃ production, read kind? text = .ok production := by
  cases done : read kind? text with
  | ok production => exact ⟨production, rfl⟩
  | error error =>
    have kept := keeps_readSymbols free
    rw [show readSymbols kind? (scan text) = .error error from done] at kept
    obtain ⟨wanted, rest, -, front, spot, whole, here, blocked⟩ := kept
    rw [symbolsOf, whole, List.map_append] at passed
    exact absurd blocked (Prospect.not_blocked_of_run here passed complete)

/-- Some production can be read whose symbols begin with these. -/
def Continuable (kind? : String → Option K) (symbols : List Symbol) : Prop :=
  ∃ text production, read kind? text = .ok production ∧ symbols <+: symbolsOf text

theorem continuable_of_run {symbols : List Symbol} {spot : Prospect}
    (spare : ∃ name, IsName name ∧ kind? name = none)
    (spells : ∀ symbol ∈ symbols, Spells symbol.text.toList [symbol])
    (free : ∀ name, symbols.head? = some (.name name) → kind? name = none)
    (passed : Prospect.initial.run symbols = some spot) : Continuable kind? symbols := by
  obtain ⟨name, named, unknown⟩ := spare
  -- From where the symbols lead there is a way to the end, and all of it can be spelled out.
  obtain ⟨last, onward, complete⟩ := spot.run_ending name
  have same : symbolsOf (spelled (symbols ++ spot.ending name)) = symbols ++ spot.ending name := by
    refine symbolsOf_spelled fun symbol member => ?_
    exact (List.mem_append.mp member).elim (spells symbol) (spells_of_mem_ending named)
  have whole : Prospect.initial.run (symbols ++ spot.ending name) = some last := by
    rw [Prospect.run_append, passed, Option.bind_some, onward]
  have begins : ∀ first, (symbols ++ spot.ending name).head? = some (.name first) →
      kind? first = none := by
    intro first here
    cases symbols with
    | nil =>
      cases passed
      cases here
      exact unknown
    | cons symbol symbols => exact free first here
  rw [← same] at whole begins
  obtain ⟨production, done⟩ := exists_read_of_run begins whole complete
  refine ⟨_, production, done, ?_⟩
  rw [same]
  exact List.prefix_append _ _

/-- A text that cannot be read as a production, and does not begin with the name of a token kind, is
cut into symbols, and the error is at the first of them that is wrong: the symbols in front of it
are those that some production begins with, but no production begins with these and the symbol. If
the error is at the end of the text, some production begins with all of its symbols. It is enough
that there is some name that is no token kind. -/
theorem stops_at_first_wrong_symbol {text : List Char} {error : ReadError}
    (spare : ∃ name, IsName name ∧ kind? name = none)
    (free : ∀ name, (symbolsOf text).head? = some (.name name) → kind? name = none)
    (failed : read kind? text = .error error) :
    ∃ wanted located, Scans 0 text located ∧
      ((error = .unexpected wanted none ∧ Continuable kind? (located.map (·.1))) ∨
        ∃ before symbol offset behind, located = before ++ (symbol, offset) :: behind ∧
          error = .unexpected wanted (some (symbol, offset)) ∧
          Continuable kind? (before.map (·.1)) ∧
          ¬ Continuable kind? (before.map (·.1) ++ [symbol])) := by
  have scans := scans_scanFrom text 0
  have kept := keeps_readSymbols free
  rw [show readSymbols kind? (scan text) = .error error from failed] at kept
  obtain ⟨wanted, rest, rfl, front, spot, whole, here, blocked⟩ := kept
  change Scans 0 text (scan text) at scans
  rw [whole] at scans
  rw [symbolsOf, whole, List.map_append] at free
  have onward : Continuable kind? (front.map (·.1)) := by
    refine continuable_of_run spare (fun symbol member => ?_) (fun name first => ?_) here
    · exact scans.spells_of_mem (by simp only [List.map_append, List.mem_append, member, true_or])
    · exact free name (by rw [List.head?_append, first]; rfl)
  refine ⟨wanted, front ++ rest, scans, ?_⟩
  cases rest with
  | nil => exact .inl ⟨rfl, by simpa using onward⟩
  | cons first behind =>
    obtain ⟨symbol, offset⟩ := first
    refine .inr ⟨front, symbol, offset, behind, rfl, rfl, onward, ?_⟩
    -- A text that goes on with the wrong symbol and can be read would lead the machine over it.
    rintro ⟨other, production, done, more, same⟩
    obtain ⟨last, passed, complete⟩ := run_of_read done
    rw [← same, List.append_assoc] at passed
    exact Prospect.not_blocked_of_run here passed complete blocked

/-- A closing bracket of the other kind is wrong behind what is right. -/
theorem stops_at_first_wrong_symbol_bracket :
    let kind? (name : String) : Option Sample.Mark := if name = "word" then some .word else none
    let front : List Symbol := [.name "row", .mark ':', .mark '(']
    read kind? "row : ( ] )".toList = .error (.unexpected (.mark ')') (some (.mark ']', 8))) ∧
      Continuable kind? front ∧ ¬ Continuable kind? (front ++ [.mark ']']) := by
  intro kind? front
  have failed : read kind? "row : ( ] )".toList =
      .error (.unexpected (.mark ')') (some (.mark ']', 8))) := by rfl
  have spare : ∃ name, IsName name ∧ kind? name = none :=
    ⟨"row", ⟨'r', "ow".toList, by decide, by decide, List.all_eq_true.mp (by decide)⟩, by decide⟩
  have free : ∀ name, (symbolsOf "row : ( ] )".toList).head? = some (.name name) →
      kind? name = none := by
    rintro name ⟨⟩
    decide
  obtain ⟨wanted, located, scans, ⟨same, -⟩ | ⟨before, symbol, offset, behind, split, same,
    continuable, wrong⟩⟩ := stops_at_first_wrong_symbol spare free failed
  · cases same
  · cases same
    have whole : [(.name "row", 0), (.mark ':', 4), (.mark '(', 6)] ++
        (.mark ']', 8) :: [(.mark ')', 10)] = before ++ (.mark ']', 8) :: behind :=
      scans.eq.symm.trans split
    obtain ⟨rfl, -⟩ := (List.append_cons_inj_of_notMem (by decide) (by decide)).mp whole
    exact ⟨failed, continuable, wrong⟩

end ProductionText

end Lookahead
