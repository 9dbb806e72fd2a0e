import Lookahead.Proofs.Parser.Evaluation

/-!
# The matcher answers its calls

The matcher gives the answers of the relation between calls and answers, except that it also stops
where it has entered as many rules inside one another as its bound allows. The bound of a loop is
never felt, as every round but the last reads a token.

Main statement: `Grammar.run_explained` (an answer of the matcher is an answer of the relation, or
the bound was reached).
-/

namespace Lookahead

namespace Outcome

variable {K C α β : Type} [TokenKind K]

/-- The outcome is not that a bound was reached. -/
def Finished (outcome : Outcome K C α) : Prop :=
  ∀ rule rest context, outcome ≠ .stopped (.unbounded rule) rest context

end Outcome

namespace Matcher

variable {K C α : Type} [TokenKind K] {canStart : Option K → Bool} {body : Matcher K C α}

/-- A loop whose body never gives tokens back is the same under every bound that covers the
tokens. -/
theorem repeatWhile_congr (ended : canStart none = false)
    (shrinks : ∀ tokens context item rest after,
      body tokens context = .matched item rest after → rest.length ≤ tokens.length)
    {m n : Nat} {tokens : List (Token K)} (enough : tokens.length ≤ m) (ample : tokens.length ≤ n)
    (context : C) :
    repeatWhile canStart body m tokens context = repeatWhile canStart body n tokens context := by
  induction m generalizing n tokens context with
  | zero =>
    obtain rfl : tokens = [] := List.eq_nil_of_length_eq_zero (by omega)
    cases n with
    | zero => rfl
    | succ n => simp [repeatWhile, nextKind, ended]
  | succ m ih =>
    cases n with
    | zero =>
      obtain rfl : tokens = [] := List.eq_nil_of_length_eq_zero (by omega)
      simp [repeatWhile, nextKind, ended]
    | succ n =>
      simp only [repeatWhile]
      split
      next =>
        cases matched : body tokens context with
        | stopped cause rest after => rfl
        | matched item rest after =>
          have shorter := shrinks _ _ _ _ _ matched
          simp only [Outcome.andThen]
          -- A round that reads nothing is the last one under either bound.
          split
          next => rfl
          next => rw [ih (n := n) (by omega) (by omega)]
      next => rfl

/-- A loop goes round once and then goes on as a loop. -/
theorem repeated_eq (ended : canStart none = false)
    (shrinks : ∀ tokens context item rest after,
      body tokens context = .matched item rest after → rest.length ≤ tokens.length)
    (tokens : List (Token K)) (context : C) :
    repeated canStart body tokens context =
      if canStart (nextKind tokens) then
        (body tokens context).andThen fun item rest after =>
          if rest.length = tokens.length then .matched [item] rest after
          else (repeated canStart body rest after).map (item :: ·)
      else .matched [] tokens context := by
  -- One round more than there are tokens leaves enough rounds for the loop behind the first.
  have unfolded : repeated canStart body tokens context =
      repeatWhile canStart body (tokens.length + 1) tokens context :=
    repeatWhile_congr ended shrinks (by omega) (by omega) context
  rw [unfolded, repeatWhile]
  split
  next =>
    cases matched : body tokens context with
    | stopped cause rest after => rfl
    | matched item rest after =>
      have shorter := shrinks _ _ _ _ _ matched
      simp only [Outcome.andThen, repeated]
      split
      next => rfl
      next => rw [repeatWhile_congr ended shrinks (n := rest.length) shorter (by omega)]
  next => rfl

end Matcher

namespace Grammar

variable {K V C : Type} [TokenKind K] {grammar : Grammar K V C}

/-! ### The matcher as a function of calls -/

/-- Matches rules by their names, entering at most `bound` rules inside one another. -/
def visitor (grammar : Grammar K V C) (bound : Nat) (name : String) : Matcher K C (Tree K V) :=
  match grammar.rule? name with
  | some rule => grammar.matchRule bound rule
  | none => .stopped (.unknownRule name)

theorem visitor_of_some {bound : Nat} {name : String} {rule : Rule K V C}
    (found : grammar.rule? name = some rule) :
    grammar.visitor bound name = grammar.matchRule bound rule := by
  rw [visitor, found]

theorem visitor_of_none {bound : Nat} {name : String} (missing : grammar.rule? name = none) :
    grammar.visitor bound name = .stopped (.unknownRule name) := by
  rw [visitor, missing]

/-- What the matcher answers to a call. -/
def run (grammar : Grammar K V C) (bound : Nat) (call : Call K C) : Outcome K C (Tree K V) :=
  grammar.matchClause (grammar.visitor bound) call.rule call.clause call.tokens call.context

theorem matchRule_succ (bound : Nat) (rule : Rule K V C) (tokens : List (Token K)) (context : C) :
    grammar.matchRule (bound + 1) rule tokens context =
      match rule.choose (nextKind tokens) with
      | none => .stopped (.expecting rule.first rule.name) tokens context
      | some (alternative, number) =>
        (grammar.matchSequence (grammar.visitor bound) rule.name alternative.clauses tokens
          context).andThen fun children rest context =>
            .matched (.node rule.name number children (alternative.action children context).1)
              rest (alternative.action children context).2 := rfl

variable {visit : String → Matcher K C (Tree K V)}

theorem matchMember_eq (caller : String) (accept : Clause K → Bool) (members : List (Clause K)) :
    grammar.matchMember visit caller accept members =
      (members.find? accept).map (grammar.matchClause visit caller) := by
  induction members with
  | nil => rfl
  | cons member others ih =>
    rw [matchMember, List.find?_cons]
    cases accept member <;> simp [ih]

/-- A choice is matched as the member that is picked. -/
theorem matchClause_choice (caller : String) (members : List (Clause K))
    (tokens : List (Token K)) (context : C) :
    grammar.matchClause visit caller (.choice members) tokens context =
      match grammar.pick members (nextKind tokens) with
      | some member => grammar.matchClause visit caller member tokens context
      | none => .stopped (.expecting (grammar.firstOf (.choice members)) caller) tokens context := by
  rw [matchClause, matchMember_eq, matchMember_eq, pick]
  cases members.find? (grammar.starts · (nextKind tokens)) with
  | some member => rfl
  | none => cases members.find? grammar.nullable <;> rfl

/-! ### Answers of the matcher -/

/-- The call would enter one rule too many. -/
inductive Cut (grammar : Grammar K V C) : Call K C → Stop K → Prop
  | rule {caller name rule tokens context} :
      grammar.rule? name = some rule →
      Cut grammar ⟨caller, .rule name, tokens, context⟩ (.unbounded rule.name)

/-- The answer is one of the relation, or it is that the bound was reached. -/
def Explained (grammar : Grammar K V C) (bound : Nat) (call : Call K C) :
    Outcome K C (Tree K V) → Prop
  | .matched tree rest after =>
    Matches grammar call.rule call.clause call.tokens call.context tree rest after
  | .stopped cause rest after =>
    Stops grammar call cause rest after ∨
      ∃ site, Reaches grammar call bound site ∧ Cut grammar site cause ∧
        site.tokens = rest ∧ site.context = after

/-- A call stops if a call that it makes does. -/
theorem Explained.lift {bound : Nat} {call callee : Call K C} (calls : Calls grammar call callee)
    {cause : Stop K} {rest : List (Token K)} {after : C}
    (explained : Explained grammar bound callee (.stopped cause rest after)) :
    Explained grammar (bound + call.entered) call (.stopped cause rest after) := by
  rcases explained with ⟨depth, site, reached, blocked⟩ | ⟨site, reached, cut⟩
  · exact Or.inl ⟨_, site, .step calls reached, blocked⟩
  · exact Or.inr ⟨site, .step calls reached, cut⟩

/-- A call whose match is made from the match of a single call is explained by that call. -/
theorem Explained.map {bound : Nat} {call callee : Call K C} (calls : Calls grammar call callee)
    {change : Tree K V → Tree K V}
    (changed : ∀ {tree rest after},
      Matches grammar callee.rule callee.clause callee.tokens callee.context tree rest after →
        Matches grammar call.rule call.clause call.tokens call.context (change tree) rest after)
    {outcome : Outcome K C (Tree K V)} (explained : Explained grammar bound callee outcome) :
    Explained grammar (bound + call.entered) call (outcome.map change) := by
  cases outcome with
  | matched tree rest after => exact changed explained
  | stopped cause rest after => exact Explained.lift calls explained

/-- A call that passes on the match of a single call is explained by that call. -/
theorem Explained.pass {bound : Nat} {call callee : Call K C} (calls : Calls grammar call callee)
    (same : ∀ {tree rest after},
      Matches grammar callee.rule callee.clause callee.tokens callee.context tree rest after →
        Matches grammar call.rule call.clause call.tokens call.context tree rest after)
    {outcome : Outcome K C (Tree K V)} (explained : Explained grammar bound callee outcome) :
    Explained grammar (bound + call.entered) call outcome := by
  cases outcome with
  | matched tree rest after => exact same explained
  | stopped cause rest after => exact Explained.lift calls explained

/-- A call stops if it is blocked itself. -/
theorem Explained.blocked {bound : Nat} {call : Call K C} {cause : Stop K}
    (blocked : Blocked grammar call cause) :
    Explained grammar bound call (.stopped cause call.tokens call.context) :=
  Or.inl ⟨0, call, .here call, blocked, rfl, rfl⟩

theorem matchSequence_explained {bound : Nat} {caller : String} (items : List (Clause K))
    (each : ∀ item ∈ items, ∀ tokens context,
      Explained grammar bound ⟨caller, item, tokens, context⟩
        (grammar.matchClause visit caller item tokens context))
    (tokens : List (Token K)) (context : C) :
    Explained grammar bound ⟨caller, .sequence items, tokens, context⟩
      ((grammar.matchSequence visit caller items tokens context).map (.group none)) := by
  induction items generalizing tokens context with
  | nil => exact Matches.nil
  | cons clause others ih =>
    have here := each clause List.mem_cons_self tokens context
    have later := ih fun item member => each item (List.mem_cons_of_mem _ member)
    rw [matchSequence]
    cases first : grammar.matchClause visit caller clause tokens context with
    | stopped cause rest after =>
      rw [first] at here
      exact Explained.lift .head here
    | matched tree middle between =>
      rw [first] at here
      have behind := later middle between
      simp only [Outcome.andThen]
      cases second : grammar.matchSequence visit caller others middle between with
      | stopped cause rest after =>
        rw [second] at behind
        exact Explained.lift (.tail here) behind
      | matched trees rest after =>
        rw [second] at behind
        exact Matches.cons here behind

theorem matchClause_shrinks {bound : Nat} {caller : String} {body : Clause K}
    (each : ∀ tokens context, Explained grammar bound ⟨caller, body, tokens, context⟩
      (grammar.matchClause visit caller body tokens context))
    (tokens : List (Token K)) (context : C) (item : Tree K V) (rest : List (Token K)) (after : C)
    (matched : grammar.matchClause visit caller body tokens context = .matched item rest after) :
    rest.length ≤ tokens.length := by
  have explained := each tokens context
  rw [matched] at explained
  exact explained.suffix.length_le

theorem repeated_explained {bound : Nat} {caller : String} {body : Clause K}
    (each : ∀ tokens context, Explained grammar bound ⟨caller, body, tokens, context⟩
      (grammar.matchClause visit caller body tokens context))
    (tokens : List (Token K)) (context : C) :
    Explained grammar bound ⟨caller, .zeroOrMore body, tokens, context⟩
      ((Matcher.repeated (grammar.starts body) (grammar.matchClause visit caller body) tokens
        context).map .many) := by
  -- Every round that another one follows reads a token.
  induction size : tokens.length using Nat.strongRecOn generalizing tokens context with
  | ind size ih =>
    have here := each tokens context
    rw [Matcher.repeated_eq rfl (matchClause_shrinks each)]
    split
    next starts =>
      cases round : grammar.matchClause visit caller body tokens context with
      | stopped cause rest after =>
        rw [round] at here
        exact Explained.lift (.body starts) here
      | matched item middle between =>
        rw [round] at here
        have shorter : middle.length ≤ tokens.length := here.suffix.length_le
        simp only [Outcome.andThen]
        split
        next same => exact Matches.idle starts here same
        next progress =>
          have behind := ih middle.length (by omega) middle between rfl
          cases others : Matcher.repeated (grammar.starts body)
              (grammar.matchClause visit caller body) middle between with
          | stopped cause rest after =>
            rw [others] at behind
            exact Explained.lift (.again starts here progress) behind
          | matched items rest after =>
            rw [others] at behind
            exact Matches.more starts here progress behind
    next ended => exact Matches.stop (by simpa using ended)

/-- If what is answered for rules is explained, so is what is answered for clauses. -/
theorem matchClause_explained {bound : Nat}
    (visits : ∀ caller name tokens context,
      Explained grammar bound ⟨caller, .rule name, tokens, context⟩ (visit name tokens context))
    (caller : String) (clause : Clause K) (tokens : List (Token K)) (context : C) :
    Explained grammar bound ⟨caller, clause, tokens, context⟩
      (grammar.matchClause visit caller clause tokens context) := by
  induction clause generalizing tokens context with
  | terminal kind =>
    cases tokens with
    | nil => exact Explained.blocked (.terminal (by simp [nextKind]))
    | cons token rest =>
      simp only [matchClause]
      split
      next same =>
        subst same
        exact Matches.terminal
      next other => exact Explained.blocked (.terminal (by simpa [nextKind] using other))
  | rule name => exact visits caller name tokens context
  | sequence items ih =>
    rw [matchClause]
    exact matchSequence_explained items ih tokens context
  | choice members ih =>
    rw [matchClause_choice]
    split
    next member picked =>
      have explained := ih member (mem_of_pick picked) tokens context
      exact Explained.pass (.choice picked) (.choice picked) explained
    next none => exact Explained.blocked (.choice none)
  | zeroOrMore body ih =>
    rw [matchClause]
    exact repeated_explained ih tokens context
  | oneOrMore body ih =>
    rw [matchClause]
    have rounds := repeated_explained ih tokens context
    cases answer : Matcher.repeated (grammar.starts body)
        (grammar.matchClause visit caller body) tokens context with
    | stopped cause rest after =>
      rw [answer] at rounds
      exact Explained.lift .loop rounds
    | matched items rest after =>
      rw [answer] at rounds
      simp only [Outcome.andThen]
      cases items with
      | cons item items => exact Matches.oneOrMore rounds
      | nil =>
        -- The loop has not gone round, so the body has to match nothing once.
        cases rounds with
        | stop ended =>
          simp only [List.isEmpty_nil, Bool.not_true, Bool.false_eq_true, if_false]
          split
          next nothing =>
            exact Explained.map (.once ended nothing) (.once ended nothing) (ih tokens context)
          next needed => exact Explained.blocked (.oneOrMore ended (by simpa using needed))
  | optional body ih =>
    rw [matchClause]
    split
    next starts => exact Explained.pass (.optional starts) (.present starts) (ih tokens context)
    next ended => exact Matches.absent (by simpa using ended)
  | group body label ih =>
    rw [matchClause]
    exact Explained.map .group .group (ih tokens context)

theorem visitor_explained (bound : Nat) (caller name : String) (tokens : List (Token K))
    (context : C) :
    Explained grammar bound ⟨caller, .rule name, tokens, context⟩
      (grammar.visitor bound name tokens context) := by
  induction bound generalizing caller name tokens context with
  | zero =>
    cases found : grammar.rule? name with
    | some rule =>
      -- The rule is not entered, as no rule may be entered any more.
      rw [visitor_of_some found]
      exact Or.inr ⟨_, .here _, .rule found, rfl, rfl⟩
    | none =>
      rw [visitor_of_none found]
      exact Explained.blocked (.unknown found)
  | succ bound ih =>
    cases found : grammar.rule? name with
    | some rule =>
      rw [visitor_of_some found, matchRule_succ]
      split
      next none => exact Explained.blocked (.rule found none)
      next alternative number chosen =>
        have children := matchSequence_explained alternative.clauses
          (fun item _ => matchClause_explained ih rule.name item) tokens context
        cases answer : grammar.matchSequence (grammar.visitor bound) rule.name
            alternative.clauses tokens context with
        | stopped cause rest after =>
          rw [answer] at children
          exact Explained.lift (.rule found chosen) children
        | matched trees rest after =>
          rw [answer] at children
          exact Matches.rule found chosen children
    | none =>
      rw [visitor_of_none found]
      exact Explained.blocked (.unknown found)

/-- Whatever the matcher answers is an answer of the relation, unless the bound was reached. -/
theorem run_explained (grammar : Grammar K V C) (bound : Nat) (call : Call K C) :
    Explained grammar bound call (grammar.run bound call) :=
  matchClause_explained (visitor_explained bound) call.rule call.clause call.tokens call.context

theorem matches_of_matchClause {bound : Nat} {caller : String} {clause : Clause K}
    {tokens rest : List (Token K)} {context after : C} {tree : Tree K V}
    (matched : grammar.matchClause (grammar.visitor bound) caller clause tokens context =
      .matched tree rest after) :
    Matches grammar caller clause tokens context tree rest after := by
  have explained := run_explained grammar bound ⟨caller, clause, tokens, context⟩
  rwa [run, matched] at explained

/-- A loop of the matcher goes round once and then goes on as a loop. -/
theorem repeated_visitor_eq (bound : Nat) (caller : String) (body : Clause K)
    (tokens : List (Token K)) (context : C) :
    let visit := grammar.matchClause (grammar.visitor bound) caller body
    Matcher.repeated (grammar.starts body) visit tokens context =
      if grammar.starts body (nextKind tokens) then
        (visit tokens context).andThen fun item rest after =>
          if rest.length = tokens.length then .matched [item] rest after
          else (Matcher.repeated (grammar.starts body) visit rest after).map (item :: ·)
      else .matched [] tokens context :=
  Matcher.repeated_eq rfl (matchClause_shrinks fun tokens context =>
    run_explained grammar bound ⟨caller, body, tokens, context⟩) tokens context

end Grammar

end Lookahead
