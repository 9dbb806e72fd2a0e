import Lookahead.Proofs.Parser.Evaluation
import Mathlib.Data.List.Find

/-!
# What the next token predicts

The next token and the sets kept with a grammar tell beforehand what a call does. A clause that the
token can begin reads it, whether the call then matches or stops. A clause that it cannot begin
reads nothing: it matches if it is nullable and stops if it is not. Each part of a call is foretold
by its own parts, so this is shown along the rules by which matches and calls are made.

Main statements: `Grammar.Matches.foretold` and `Grammar.Stops.foretold`.
-/

namespace Lookahead

/-- What is found in a list in two rounds was found in the first one, or the first one failed. -/
theorem of_find?_or_eq_some {α : Type} {first second : α → Bool} {items : List α} {item : α}
    (found : (items.find? first).or (items.find? second) = some item) :
    item ∈ items ∧ (first item = true ∨
      (∀ other ∈ items, first other = false) ∧ second item = true) := by
  rcases Option.or_eq_some_iff.mp found with early | ⟨none, late⟩
  · exact ⟨List.mem_of_find?_eq_some early, Or.inl (List.find?_some early)⟩
  · refine ⟨List.mem_of_find?_eq_some late, Or.inr ⟨?_, List.find?_some late⟩⟩
    simpa using none

theorem of_find?_or_eq_none {α : Type} {first second : α → Bool} {items : List α}
    (missing : (items.find? first).or (items.find? second) = none) :
    ∀ item ∈ items, first item = false ∧ second item = false := by
  obtain ⟨early, late⟩ := Option.or_eq_none_iff.mp missing
  intro item member
  have begins := List.find?_eq_none.mp early item member
  have nothing := List.find?_eq_none.mp late item member
  exact ⟨by simpa using begins, by simpa using nothing⟩

/-- If the first round can find something, it is the one that does. -/
theorem exists_find?_or {α : Type} (first second : α → Bool) {items : List α} {item : α}
    (member : item ∈ items) (holds : first item = true) :
    ∃ found ∈ items, (items.find? first).or (items.find? second) = some found ∧
      first found = true := by
  cases early : items.find? first with
  | none =>
    have fails := List.find?_eq_none.mp early item member
    exact absurd holds fails
  | some found =>
    exact ⟨found, List.mem_of_find?_eq_some early, Option.some_or, List.find?_some early⟩

namespace Grammar

variable {K V C : Type} [TokenKind K] {grammar : Grammar K V C}

/-! ### Lookahead of clauses -/

/-- The test for the next token agrees with the first set. -/
theorem starts_iff {clause : Clause K} {next : Option K} :
    grammar.starts clause next = true ↔ ∃ kind ∈ next, kind ∈ grammar.firstOf clause := by
  cases next with
  | none => simp [starts]
  | some kind => simp [starts, firstOf, Clause.starts_iff]

theorem starts_sequence_nil (next : Option K) : grammar.starts (.sequence []) next = false := by
  cases next <;> rfl

theorem starts_sequence_cons (clause : Clause K) (others : List (Clause K)) (next : Option K) :
    grammar.starts (.sequence (clause :: others)) next =
      (grammar.starts clause next ||
        (grammar.nullable clause && grammar.starts (.sequence others) next)) := by
  cases next with
  | none => simp [starts]
  | some kind => rfl

theorem nullable_sequence_cons (clause : Clause K) (others : List (Clause K)) :
    grammar.nullable (.sequence (clause :: others)) =
      (grammar.nullable clause && grammar.nullable (.sequence others)) := rfl

theorem starts_choice {members : List (Clause K)} {next : Option K} :
    grammar.starts (.choice members) next = true ↔
      ∃ member ∈ members, grammar.starts member next = true := by
  cases next with
  | none => simp [starts]
  | some kind =>
    simp only [starts, Clause.starts]
    induction members with
    | nil => simp [Clause.startsAny]
    | cons clause rest ih => simp [Clause.startsAny, ih]

theorem nullable_choice {members : List (Clause K)} :
    grammar.nullable (.choice members) = true ↔
      ∃ member ∈ members, grammar.nullable member = true :=
  Clause.nullableAny_iff

theorem starts_choice_eq_false {members : List (Clause K)} {next : Option K}
    (none : ∀ member ∈ members, grammar.starts member next = false) :
    grammar.starts (.choice members) next = false := by
  rw [Bool.eq_false_iff, ne_eq, starts_choice]
  rintro ⟨member, among, begins⟩
  simp [none member among] at begins

theorem nullable_choice_eq_false {members : List (Clause K)}
    (none : ∀ member ∈ members, grammar.nullable member = false) :
    grammar.nullable (.choice members) = false := by
  rw [Bool.eq_false_iff, ne_eq, nullable_choice]
  rintro ⟨member, among, nothing⟩
  simp [none member among] at nothing

theorem starts_zeroOrMore (body : Clause K) (next : Option K) :
    grammar.starts (.zeroOrMore body) next = grammar.starts body next := by
  cases next <;> rfl

theorem starts_oneOrMore (body : Clause K) (next : Option K) :
    grammar.starts (.oneOrMore body) next = grammar.starts body next := by
  cases next <;> rfl

theorem starts_optional (body : Clause K) (next : Option K) :
    grammar.starts (.optional body) next = grammar.starts body next := by
  cases next <;> rfl

theorem starts_group (body : Clause K) (label : Option String) (next : Option K) :
    grammar.starts (.group body label) next = grammar.starts body next := by
  cases next <;> rfl

/-! ### Lookahead of rules -/

theorem starts_rule (coherent : grammar.Coherent) {name : String} {rule : Rule K V C}
    (found : grammar.rule? name = some rule) {next : Option K} :
    grammar.starts (.rule name) next = true ↔
      ∃ alternative ∈ rule.alternatives,
        grammar.starts (.sequence alternative.clauses) next = true := by
  cases next with
  | none => simp [starts]
  | some kind =>
    have own : grammar.starts (.rule name) (some kind) = true ↔ kind ∈ rule.first := by
      simp [starts, Clause.starts, ruleFirst, found]
    rw [own, coherent.mem_rule found]
    refine exists_congr fun alternative => and_congr_right fun member => ?_
    rw [coherent.mem_alternative found member, starts_iff]
    simp

theorem nullable_rule (coherent : grammar.Coherent) {name : String} {rule : Rule K V C}
    (found : grammar.rule? name = some rule) :
    grammar.nullable (.rule name) = true ↔
      ∃ alternative ∈ rule.alternatives,
        grammar.nullable (.sequence alternative.clauses) = true := by
  have own : grammar.nullable (.rule name) = rule.mayBeEmpty := by
    simp [nullable, Clause.nullable, ruleMayBeEmpty, found]
  rw [own, coherent.rule_empty found]
  refine exists_congr fun alternative => and_congr_right fun member => ?_
  rw [coherent.alternative_empty found member]

theorem starts_rule_eq_false (coherent : grammar.Coherent) {name : String} {rule : Rule K V C}
    (found : grammar.rule? name = some rule) {next : Option K}
    (none : ∀ alternative ∈ rule.alternatives,
      grammar.starts (.sequence alternative.clauses) next = false) :
    grammar.starts (.rule name) next = false := by
  rw [Bool.eq_false_iff, ne_eq, starts_rule coherent found]
  rintro ⟨alternative, among, begins⟩
  simp [none alternative among] at begins

theorem nullable_rule_eq_false (coherent : grammar.Coherent) {name : String} {rule : Rule K V C}
    (found : grammar.rule? name = some rule)
    (none : ∀ alternative ∈ rule.alternatives,
      grammar.nullable (.sequence alternative.clauses) = false) :
    grammar.nullable (.rule name) = false := by
  rw [Bool.eq_false_iff, ne_eq, nullable_rule coherent found]
  rintro ⟨alternative, among, nothing⟩
  simp [none alternative among] at nothing

/-- A rule takes its alternative as a choice of the right-hand sides would. -/
theorem choose_eq (coherent : grammar.Coherent) {name : String} {rule : Rule K V C}
    (found : grammar.rule? name = some rule) (next : Option K) :
    rule.choose next =
      (rule.alternatives.zipIdx.find?
        (fun entry => grammar.starts (.sequence entry.1.clauses) next)).or
      (rule.alternatives.zipIdx.find?
        (fun entry => grammar.nullable (.sequence entry.1.clauses))) := by
  have listed : ∀ entry ∈ rule.alternatives.zipIdx, entry.1 ∈ rule.alternatives :=
    fun entry member => List.fst_mem_of_mem_zipIdx member
  have nothing : ∀ entry ∈ rule.alternatives.zipIdx,
      entry.1.mayBeEmpty = grammar.nullable (.sequence entry.1.clauses) :=
    fun entry member => coherent.alternative_empty found (listed entry member)
  rw [← List.find?_congr nothing]
  unfold Rule.choose
  cases next with
  | none =>
    simp only
    split
    next entry early => cases List.find?_some early
    next missing =>
      have never : rule.alternatives.zipIdx.find?
          (fun entry => grammar.starts (.sequence entry.1.clauses) none) = none := missing
      rw [never, Option.none_or]
  | some kind =>
    have begins : ∀ entry ∈ rule.alternatives.zipIdx,
        decide (kind ∈ entry.1.first) =
          grammar.starts (.sequence entry.1.clauses) (some kind) := by
      intro entry member
      rw [Bool.eq_iff_iff, starts_iff]
      simp [coherent.mem_alternative found (listed entry member)]
    rw [← List.find?_congr begins]
    simp only
    split
    next entry early => rw [early, Option.some_or]
    next missing => rw [missing, Option.none_or]

/-- The member that is picked begins with the next token, or else no member does and it can match
nothing. -/
theorem of_pick_eq_some {members : List (Clause K)} {next : Option K} {member : Clause K}
    (picked : grammar.pick members next = some member) :
    member ∈ members ∧ (grammar.starts member next = true ∨
      (∀ other ∈ members, grammar.starts other next = false) ∧ grammar.nullable member = true) :=
  of_find?_or_eq_some picked

theorem of_pick_eq_none {members : List (Clause K)} {next : Option K}
    (missing : grammar.pick members next = none) :
    ∀ member ∈ members, grammar.starts member next = false ∧ grammar.nullable member = false :=
  of_find?_or_eq_none missing

/-- The alternative that is taken begins with the next token, or else no alternative does and it
can match nothing. -/
theorem of_choose_eq_some (coherent : grammar.Coherent) {name : String} {rule : Rule K V C}
    (found : grammar.rule? name = some rule) {next : Option K} {alternative : Alternative K V C}
    {number : Nat} (chosen : rule.choose next = some (alternative, number)) :
    alternative ∈ rule.alternatives ∧
      (grammar.starts (.sequence alternative.clauses) next = true ∨
        (∀ other ∈ rule.alternatives, grammar.starts (.sequence other.clauses) next = false) ∧
          grammar.nullable (.sequence alternative.clauses) = true) := by
  rw [choose_eq coherent found] at chosen
  obtain ⟨listed, reason⟩ := of_find?_or_eq_some chosen
  refine ⟨List.fst_mem_of_mem_zipIdx listed, reason.imp_right (And.imp_left fun none => ?_)⟩
  intro other member
  obtain ⟨index, position⟩ := List.mem_iff_getElem?.mp member
  exact none (other, index) (List.mem_zipIdx_iff_getElem?.mpr position)

theorem of_choose_eq_none (coherent : grammar.Coherent) {name : String} {rule : Rule K V C}
    (found : grammar.rule? name = some rule) {next : Option K} (missing : rule.choose next = none) :
    ∀ alternative ∈ rule.alternatives,
      grammar.starts (.sequence alternative.clauses) next = false ∧
        grammar.nullable (.sequence alternative.clauses) = false := by
  rw [choose_eq coherent found] at missing
  intro alternative member
  obtain ⟨index, position⟩ := List.mem_iff_getElem?.mp member
  exact of_find?_or_eq_none missing (alternative, index)
    (List.mem_zipIdx_iff_getElem?.mpr position)

/-- A member that begins with the next token sees to it that such a member is picked. -/
theorem exists_pick {members : List (Clause K)} {member : Clause K} (among : member ∈ members)
    {next : Option K} (starts : grammar.starts member next = true) :
    ∃ other ∈ members, grammar.pick members next = some other ∧
      grammar.starts other next = true :=
  exists_find?_or (grammar.starts · next) grammar.nullable among starts

/-- An alternative that begins with the next token sees to it that such an alternative is taken. -/
theorem exists_choose (coherent : grammar.Coherent) {name : String} {rule : Rule K V C}
    (found : grammar.rule? name = some rule) {alternative : Alternative K V C}
    (member : alternative ∈ rule.alternatives) {next : Option K}
    (starts : grammar.starts (.sequence alternative.clauses) next = true) :
    ∃ other ∈ rule.alternatives, ∃ number, rule.choose next = some (other, number) ∧
      grammar.starts (.sequence other.clauses) next = true := by
  rw [choose_eq coherent found]
  obtain ⟨index, position⟩ := List.mem_iff_getElem?.mp member
  have listed : (alternative, index) ∈ rule.alternatives.zipIdx :=
    List.mem_zipIdx_iff_getElem?.mpr position
  obtain ⟨⟨other, number⟩, among, chosen, begins⟩ := exists_find?_or
    (fun entry => grammar.starts (.sequence entry.1.clauses) next) _ listed starts
  exact ⟨other, List.fst_mem_of_mem_zipIdx among, number, chosen, begins⟩

/-! ### Matches and stops -/

/-- What is foretold of a call that leaves the tokens `rest`: if the next token can begin the
clause, tokens are read; otherwise nothing is read and the call succeeds just if the clause is
nullable. -/
def Foretold (grammar : Grammar K V C) (clause : Clause K) (tokens rest : List (Token K))
    (succeeded : Bool) : Prop :=
  if grammar.starts clause (nextKind tokens) then rest.length < tokens.length
  else rest = tokens ∧ grammar.nullable clause = succeeded

theorem Foretold.read {clause : Clause K} {tokens rest : List (Token K)} {succeeded : Bool}
    (foretold : Foretold grammar clause tokens rest succeeded)
    (starts : grammar.starts clause (nextKind tokens) = true) : rest.length < tokens.length := by
  simpa [Foretold, starts] using foretold

theorem Foretold.unread {clause : Clause K} {tokens rest : List (Token K)} {succeeded : Bool}
    (foretold : Foretold grammar clause tokens rest succeeded)
    (ended : grammar.starts clause (nextKind tokens) = false) :
    rest = tokens ∧ grammar.nullable clause = succeeded := by
  simpa [Foretold, ended] using foretold

theorem foretold_of_read {clause : Clause K} {tokens rest : List (Token K)} {succeeded : Bool}
    (starts : grammar.starts clause (nextKind tokens) = true)
    (shorter : rest.length < tokens.length) : Foretold grammar clause tokens rest succeeded := by
  simpa [Foretold, starts] using shorter

theorem foretold_of_unread {clause : Clause K} {tokens : List (Token K)} {succeeded : Bool}
    (ended : grammar.starts clause (nextKind tokens) = false)
    (nothing : grammar.nullable clause = succeeded) :
    Foretold grammar clause tokens tokens succeeded := by
  simpa [Foretold, ended] using nothing

/-- What is foretold depends on the lookahead of the clause only. -/
theorem Foretold.congr {clause other : Clause K} {tokens rest : List (Token K)} {succeeded : Bool}
    (foretold : Foretold grammar clause tokens rest succeeded)
    (starts : grammar.starts other (nextKind tokens) = grammar.starts clause (nextKind tokens))
    (nothing : grammar.nullable other = grammar.nullable clause) :
    Foretold grammar other tokens rest succeeded := by
  rwa [Foretold, starts, nothing]

/-- Behind a match of the first item it is foretold of a sequence what is foretold of the other
items. -/
theorem Foretold.cons {clause : Clause K} {others : List (Clause K)}
    {tokens middle rest : List (Token K)} {succeeded : Bool}
    (first : Foretold grammar clause tokens middle true) (suffix : rest <:+ middle)
    (later : Foretold grammar (.sequence others) middle rest succeeded) :
    Foretold grammar (.sequence (clause :: others)) tokens rest succeeded := by
  have shorter := suffix.length_le
  cases here : grammar.starts clause (nextKind tokens) with
  | true =>
    have read := first.read here
    exact foretold_of_read (by simp [starts_sequence_cons, here]) (by omega)
  | false =>
    -- The first item has read nothing, so the others stand in front of the same tokens.
    obtain ⟨rfl, nothing⟩ := first.unread here
    exact later.congr (by simp [starts_sequence_cons, here, nothing])
      (by simp [nullable_sequence_cons, nothing])

/-- What is foretold of the member that is picked is foretold of the choice, if the member can be
empty where it reads nothing. -/
theorem Foretold.choice {members : List (Clause K)} {member : Clause K}
    {tokens rest : List (Token K)} {succeeded : Bool}
    (picked : grammar.pick members (nextKind tokens) = some member)
    (foretold : Foretold grammar member tokens rest succeeded) :
    Foretold grammar (.choice members) tokens rest succeeded := by
  obtain ⟨among, begins | ⟨none, nothing⟩⟩ := of_pick_eq_some picked
  · have starts : grammar.starts (.choice members) (nextKind tokens) = true :=
      starts_choice.mpr ⟨member, among, begins⟩
    exact foretold_of_read starts (foretold.read begins)
  · -- No member begins with the next token, so the call succeeds just if this one can be empty.
    obtain ⟨rfl, succeeds⟩ := foretold.unread (none member among)
    refine foretold_of_unread (starts_choice_eq_false none) ?_
    rw [nullable_choice.mpr ⟨member, among, nothing⟩, ← succeeds, nothing]

/-- What is foretold of the alternative that is taken is foretold of the rule. -/
theorem Foretold.rule (coherent : grammar.Coherent) {name : String} {rule : Rule K V C}
    (found : grammar.rule? name = some rule) {alternative : Alternative K V C} {number : Nat}
    {tokens rest : List (Token K)} {succeeded : Bool}
    (chosen : rule.choose (nextKind tokens) = some (alternative, number))
    (foretold : Foretold grammar (.sequence alternative.clauses) tokens rest succeeded) :
    Foretold grammar (.rule name) tokens rest succeeded := by
  obtain ⟨among, begins | ⟨none, nothing⟩⟩ := of_choose_eq_some coherent found chosen
  · have starts : grammar.starts (.rule name) (nextKind tokens) = true :=
      (starts_rule coherent found).mpr ⟨alternative, among, begins⟩
    exact foretold_of_read starts (foretold.read begins)
  · obtain ⟨rfl, succeeds⟩ := foretold.unread (none alternative among)
    refine foretold_of_unread (starts_rule_eq_false coherent found none) ?_
    rw [(nullable_rule coherent found).mpr ⟨alternative, among, nothing⟩, ← succeeds, nothing]

/-- A loop that goes round does so because of the next token. -/
theorem Matches.starts {caller : String} {body : Clause K} {tokens rest : List (Token K)}
    {context after : C} {item : Tree K V} {items : List (Tree K V)}
    (matched : Matches grammar caller (.zeroOrMore body) tokens context (.many (item :: items))
      rest after) : grammar.starts body (nextKind tokens) = true := by
  cases matched with
  | more starts _ _ _ => exact starts
  | idle starts _ _ => exact starts

/-- The next token foretells a match: a clause that it can begin reads it, and any other clause
is nullable and reads nothing. -/
theorem Matches.foretold (coherent : grammar.Coherent) {caller : String} {clause : Clause K}
    {tokens rest : List (Token K)} {context after : C} {tree : Tree K V}
    (matched : Matches grammar caller clause tokens context tree rest after) :
    Foretold grammar clause tokens rest true := by
  induction matched with
  | @terminal caller token rest =>
    have starts : grammar.starts (.terminal token.kind) (nextKind (token :: rest)) = true := by
      simp [Grammar.starts, nextKind, Clause.starts]
    exact foretold_of_read starts (by simp)
  | rule found chosen _ ih => exact .rule coherent found chosen ih
  | nil => exact foretold_of_unread (starts_sequence_nil _) rfl
  | cons _ later ih ih' => exact .cons ih later.suffix ih'
  | choice picked _ ih => exact .choice picked ih
  | stop ended => exact foretold_of_unread (by rwa [starts_zeroOrMore]) rfl
  | more starts _ _ others ih _ =>
    have shorter := ih.read starts
    have behind := others.suffix.length_le
    exact foretold_of_read (by rwa [starts_zeroOrMore]) (by omega)
  | idle starts _ _ ih => exact foretold_of_read (by rwa [starts_zeroOrMore]) (ih.read starts)
  | oneOrMore rounds ih =>
    have starts : grammar.starts _ _ = true := rounds.starts
    exact foretold_of_read (by rwa [starts_oneOrMore]) (ih.read (by rwa [starts_zeroOrMore]))
  | once ended nothing _ ih =>
    obtain ⟨rfl, -⟩ := ih.unread ended
    exact foretold_of_unread (by rwa [starts_oneOrMore]) nothing
  | absent ended => exact foretold_of_unread (by rwa [starts_optional]) rfl
  | present starts _ ih => exact foretold_of_read (by rwa [starts_optional]) (ih.read starts)
  | group _ ih => exact ih.congr (starts_group _ _ _) rfl

/-- The next token foretells that a call is blocked: it cannot begin the clause, and the clause
is not nullable. -/
theorem Blocked.foretold (coherent : grammar.Coherent) {call : Call K C} {cause : Stop K}
    (blocked : Blocked grammar call cause) :
    Foretold grammar call.clause call.tokens call.tokens false := by
  cases blocked with
  | @terminal caller kind tokens context other =>
    refine foretold_of_unread ?_ rfl
    cases tokens with
    | nil => rfl
    | cons token rest =>
      have different : kind ≠ token.kind := by
        rintro rfl
        exact other rfl
      simpa [starts, nextKind, Clause.starts] using different
  | rule found missing =>
    have failing := of_choose_eq_none coherent found missing
    refine foretold_of_unread ?_ ?_
    · exact starts_rule_eq_false coherent found fun other among => (failing other among).1
    · exact nullable_rule_eq_false coherent found fun other among => (failing other among).2
  | @unknown caller name tokens context missing =>
    refine foretold_of_unread ?_ ?_
    · cases nextKind tokens with
      | none => rfl
      | some kind => simp [starts, Clause.starts, ruleFirst, missing]
    · simp [nullable, Clause.nullable, ruleMayBeEmpty, missing]
  | choice missing =>
    have failing := of_pick_eq_none missing
    refine foretold_of_unread ?_ ?_
    · exact starts_choice_eq_false fun other among => (failing other among).1
    · exact nullable_choice_eq_false fun other among => (failing other among).2
  | oneOrMore ended needed => exact foretold_of_unread (by rwa [starts_oneOrMore]) needed

/-- If it is foretold of a call that it stops, so it is of the caller. -/
theorem Calls.foretold (coherent : grammar.Coherent) {call callee : Call K C}
    (calls : Calls grammar call callee) {rest : List (Token K)} (suffix : rest <:+ callee.tokens)
    (foretold : Foretold grammar callee.clause callee.tokens rest false) :
    Foretold grammar call.clause call.tokens rest false := by
  cases calls with
  | rule found chosen => exact foretold.rule coherent found chosen
  | @head caller clause others tokens =>
    -- The first item has stopped, so what stands behind it does not matter.
    cases here : grammar.starts clause (nextKind tokens) with
    | true =>
      exact foretold_of_read (by simp [starts_sequence_cons, here]) (foretold.read here)
    | false =>
      obtain ⟨rfl, needed⟩ := foretold.unread here
      exact foretold_of_unread (by simp [starts_sequence_cons, here, needed])
        (by simp [nullable_sequence_cons, needed])
  | tail matched => exact (matched.foretold coherent).cons suffix foretold
  | choice picked => exact foretold.choice picked
  | body starts => exact foretold_of_read (by rwa [starts_zeroOrMore]) (foretold.read starts)
  | again starts matched _ =>
    have shorter := (matched.foretold coherent).read starts
    have behind := suffix.length_le
    exact foretold_of_read (by rwa [starts_zeroOrMore]) (by simp only at behind ⊢; omega)
  | @loop caller body tokens =>
    cases here : grammar.starts body (nextKind tokens) with
    | true =>
      exact foretold_of_read (by rwa [starts_oneOrMore])
        (foretold.read (by rwa [starts_zeroOrMore]))
    | false =>
      -- A loop that need not go round does not stop before its first round.
      have := (foretold.unread (by rwa [starts_zeroOrMore])).2
      cases this
  | once ended nothing =>
    -- A nullable body does not stop where it reads nothing.
    have needed := (foretold.unread ended).2
    rw [nothing] at needed
    cases needed
  | optional starts => exact foretold_of_read (by rwa [starts_optional]) (foretold.read starts)
  | group => exact foretold.congr (starts_group _ _ _) rfl

/-- The next token foretells that a call stops: a clause that it can begin reads it all the same,
and any other clause is not nullable and reads nothing. -/
theorem Stops.foretold (coherent : grammar.Coherent) {call : Call K C} {cause : Stop K}
    {rest : List (Token K)} {after : C} (stops : Stops grammar call cause rest after) :
    Foretold grammar call.clause call.tokens rest false := by
  obtain ⟨depth, site, reached, blocked, rfl, -⟩ := stops
  induction reached with
  | here => exact blocked.foretold coherent
  | step calls reached ih => exact calls.foretold coherent reached.suffix (ih blocked)

end Grammar

end Lookahead
