import Lookahead.Proofs.Parser.Determinacy
import Mathlib.Data.List.Forall2

/-!
# Parses side by side

What the parser does is decided by the kinds of the tokens and by the rules, not by anything that it
hands on from one place to another: the texts of the tokens, the values and the context. Two parses
by grammars with the same rules go through the same steps. If their tokens, their values and their
contexts correspond at the start and the actions keep up the correspondence, then so do the trees,
the errors and the contexts at the end.

Main statement: `Correspondence.results_parseTokens`.
-/

namespace Lookahead

/-! ### Lists side by side -/

/-- The first elements that are accepted correspond, if elements that do are accepted alike. -/
theorem rel_find? {α β : Type} {related : α → β → Prop} {accept : α → Bool} {accept' : β → Bool}
    (alike : ∀ a b, related a b → accept a = accept' b) {as : List α} {bs : List β}
    (lists : List.Forall₂ related as bs) :
    Option.Rel related (as.find? accept) (bs.find? accept') := by
  induction lists with
  | nil => exact .none
  | @cons a b as bs first _ ih =>
    rw [List.find?_cons, List.find?_cons, ← alike a b first]
    cases accept a with
    | true => exact .some first
    | false => exact ih

theorem rel_or {α β : Type} {related : α → β → Prop} {left left' : Option α}
    {right right' : Option β} (first : Option.Rel related left right)
    (second : Option.Rel related left' right') :
    Option.Rel related (left.or left') (right.or right') := by
  cases first with
  | none => simpa using second
  | some entry => exact .some entry

theorem rel_zipIdx {α β : Type} {related : α → β → Prop} {as : List α} {bs : List β}
    (lists : List.Forall₂ related as bs) (start : Nat) :
    List.Forall₂ (fun a b => related a.1 b.1 ∧ a.2 = b.2) (as.zipIdx start) (bs.zipIdx start) := by
  induction lists generalizing start with
  | nil => exact .nil
  | cons first _ ih => exact .cons ⟨first, rfl⟩ (ih (start + 1))

/-- How two parses correspond in what they are given and in what the actions make. Tokens that
correspond are of one kind. -/
structure Correspondence (K V V' C C' : Type) where
  tokens : Token K → Token K → Prop
  values : V → V' → Prop
  contexts : C → C' → Prop
  kind_eq : ∀ {token token'}, tokens token token' → token.kind = token'.kind

namespace Correspondence

variable {K V V' C C' : Type}

/-! ### Trees -/

/-- The trees are alike but for tokens and values that correspond. -/
inductive Trees (link : Correspondence K V V' C C') : Tree K V → Tree K V' → Prop
  | leaf {token token'} : link.tokens token token' → Trees link (.leaf token) (.leaf token')
  | node {rule number children children' value value'} :
      Trees link (.many children) (.many children') → link.values value value' →
      Trees link (.node rule number children value) (.node rule number children' value')
  | absent : Trees link .absent .absent
  | nil : Trees link (.many []) (.many [])
  | cons {tree tree' trees trees'} :
      Trees link tree tree' → Trees link (.many trees) (.many trees') →
      Trees link (.many (tree :: trees)) (.many (tree' :: trees'))
  | group {label children children'} :
      Trees link (.many children) (.many children') →
      Trees link (.group label children) (.group label children')

variable {link : Correspondence K V V' C C'}

theorem Trees.singleton {tree : Tree K V} {tree' : Tree K V'} (trees : link.Trees tree tree') :
    link.Trees (.many [tree]) (.many [tree']) :=
  .cons trees .nil

theorem Trees.groupChildren {tree : Tree K V} {tree' : Tree K V'} (trees : link.Trees tree tree')
    (body : Clause K) :
    link.Trees (.many (Grammar.groupChildren body tree))
      (.many (Grammar.groupChildren body tree')) := by
  cases body with
  | sequence items =>
    cases trees with
    | group children => exact children
    | leaf same => exact Trees.singleton (.leaf same)
    | node children values => exact Trees.singleton (.node children values)
    | absent => exact Trees.singleton .absent
    | nil => exact Trees.singleton .nil
    | cons first others => exact Trees.singleton (.cons first others)
  | _ => exact trees.singleton

theorem nextKind_eq {tokens tokens' : List (Token K)}
    (alike : List.Forall₂ link.tokens tokens tokens') : nextKind tokens = nextKind tokens' := by
  cases alike with
  | nil => rfl
  | cons first _ => exact congrArg some (link.kind_eq first)

/-! ### Matchers -/

variable [TokenKind K] {α α' β β' : Type}

/-- The outcomes are both matches with results that correspond, or they are both stopped for the
same cause, and what is left corresponds. -/
inductive Outcomes (link : Correspondence K V V' C C') (results : α → α' → Prop) :
    Outcome K C α → Outcome K C' α' → Prop
  | matched {result result' rest rest' context context'} :
      results result result' → List.Forall₂ link.tokens rest rest' →
      link.contexts context context' →
      Outcomes link results (.matched result rest context) (.matched result' rest' context')
  | stopped {cause rest rest' context context'} :
      List.Forall₂ link.tokens rest rest' → link.contexts context context' →
      Outcomes link results (.stopped cause rest context) (.stopped cause rest' context')

/-- The matchers have outcomes that correspond where their tokens and contexts do. -/
def Matchers (link : Correspondence K V V' C C') (results : α → α' → Prop)
    (matcher : Matcher K C α) (matcher' : Matcher K C' α') : Prop :=
  ∀ {tokens tokens' context context'}, List.Forall₂ link.tokens tokens tokens' →
    link.contexts context context' →
      link.Outcomes results (matcher tokens context) (matcher' tokens' context')

variable {results : α → α' → Prop} {others : β → β' → Prop}

theorem Outcomes.andThen {outcome : Outcome K C α} {outcome' : Outcome K C' α'}
    {next : α → Matcher K C β} {next' : α' → Matcher K C' β'}
    (outcomes : link.Outcomes results outcome outcome')
    (nexts : ∀ {result result'}, results result result' →
      link.Matchers others (next result) (next' result')) :
    link.Outcomes others (outcome.andThen next) (outcome'.andThen next') := by
  cases outcomes with
  | matched result rests contexts => exact nexts result rests contexts
  | stopped rests contexts => exact .stopped rests contexts

theorem Outcomes.map {outcome : Outcome K C α} {outcome' : Outcome K C' α'}
    {change : α → β} {change' : α' → β'} (outcomes : link.Outcomes results outcome outcome')
    (changes : ∀ {result result'}, results result result' →
      others (change result) (change' result')) :
    link.Outcomes others (outcome.map change) (outcome'.map change') := by
  cases outcomes with
  | matched result rests contexts => exact .matched (changes result) rests contexts
  | stopped rests contexts => exact .stopped rests contexts

/-- The lists of trees correspond. -/
def Lists (link : Correspondence K V V' C C') (trees : List (Tree K V))
    (trees' : List (Tree K V')) : Prop :=
  link.Trees (.many trees) (.many trees')

theorem matchers_repeatWhile {canStart : Option K → Bool} {body : Matcher K C (Tree K V)}
    {body' : Matcher K C' (Tree K V')} (bodies : link.Matchers link.Trees body body')
    (bound : Nat) :
    link.Matchers link.Lists (Matcher.repeatWhile canStart body bound)
      (Matcher.repeatWhile canStart body' bound) := by
  induction bound with
  | zero => exact fun alike contexts => .matched .nil alike contexts
  | succ bound ih =>
    intro tokens tokens' context context' alike contexts
    rw [Matcher.repeatWhile, Matcher.repeatWhile, ← nextKind_eq alike]
    split
    next =>
      refine (bodies alike contexts).andThen fun item rest rest' after after' left behind => ?_
      -- Whether the round has read anything shows in the lengths.
      rw [← left.length_eq, ← alike.length_eq]
      split
      next => exact .matched item.singleton left behind
      next => exact (ih left behind).map fun items => .cons item items
    next => exact .matched .nil alike contexts

theorem matchers_repeated {canStart : Option K → Bool} {body : Matcher K C (Tree K V)}
    {body' : Matcher K C' (Tree K V')} (bodies : link.Matchers link.Trees body body') :
    link.Matchers link.Lists (Matcher.repeated canStart body)
      (Matcher.repeated canStart body') := by
  intro tokens tokens' context context' alike contexts
  rw [Matcher.repeated, Matcher.repeated, ← alike.length_eq]
  exact matchers_repeatWhile bodies _ alike contexts

/-! ### Grammars -/

/-- The alternatives are the same but for their actions, and these keep up the correspondence. -/
structure Alternatives (link : Correspondence K V V' C C') (alternative : Alternative K V C)
    (alternative' : Alternative K V' C') : Prop where
  clauses : alternative.clauses = alternative'.clauses
  first : alternative.first = alternative'.first
  mayBeEmpty : alternative.mayBeEmpty = alternative'.mayBeEmpty
  action : ∀ {children children' context context'}, link.Lists children children' →
    link.contexts context context' →
      link.values (alternative.action children context).1
        (alternative'.action children' context').1 ∧
      link.contexts (alternative.action children context).2
        (alternative'.action children' context').2

/-- The rules are the same but for the actions of their alternatives. -/
structure Rules (link : Correspondence K V V' C C') (rule : Rule K V C) (rule' : Rule K V' C') :
    Prop where
  name : rule.name = rule'.name
  first : rule.first = rule'.first
  mayBeEmpty : rule.mayBeEmpty = rule'.mayBeEmpty
  alternatives : List.Forall₂ link.Alternatives rule.alternatives rule'.alternatives

/-- The grammars have the same rules but for their actions. -/
def Grammars (link : Correspondence K V V' C C') (grammar : Grammar K V C)
    (grammar' : Grammar K V' C') : Prop :=
  List.Forall₂ link.Rules grammar.rules grammar'.rules

/-- The alternatives that begin with the next token come first, then those that can be empty. -/
theorem choose_eq_or (rule : Rule K V C) (next : Option K) :
    rule.choose next =
      (rule.alternatives.zipIdx.find? fun entry => next.any (· ∈ entry.1.first)).or
        (rule.alternatives.zipIdx.find? (·.1.mayBeEmpty)) := by
  cases next with
  | none =>
    simp only [Rule.choose, Option.any_none]
    cases List.find? (fun _ => false) rule.alternatives.zipIdx <;> rfl
  | some kind =>
    simp only [Rule.choose, Option.any_some]
    cases List.find? (fun entry => decide (kind ∈ entry.1.first)) rule.alternatives.zipIdx <;> rfl

/-- The same alternative is chosen by the next token. -/
theorem Rules.choose {rule : Rule K V C} {rule' : Rule K V' C'} (rules : link.Rules rule rule')
    (next : Option K) :
    Option.Rel (fun entry entry' => link.Alternatives entry.1 entry'.1 ∧ entry.2 = entry'.2)
      (rule.choose next) (rule'.choose next) := by
  have entries := rel_zipIdx rules.alternatives 0
  rw [choose_eq_or, choose_eq_or]
  refine rel_or (rel_find? (fun entry entry' alike => ?_) entries)
    (rel_find? (fun entry entry' alike => alike.1.mayBeEmpty) entries)
  rw [alike.1.first]

variable {grammar : Grammar K V C} {grammar' : Grammar K V' C'}

theorem Grammars.rule? (grammars : link.Grammars grammar grammar') (name : String) :
    Option.Rel link.Rules (grammar.rule? name) (grammar'.rule? name) :=
  rel_find? (fun _ _ alike => by rw [alike.name]) grammars

theorem Grammars.ruleFirst (grammars : link.Grammars grammar grammar') :
    grammar.ruleFirst = grammar'.ruleFirst := by
  funext name
  have found := grammars.rule? name
  unfold Grammar.ruleFirst
  generalize grammar.rule? name = left, grammar'.rule? name = right at found ⊢
  cases found with
  | none => rfl
  | some rules => exact rules.first

theorem Grammars.ruleMayBeEmpty (grammars : link.Grammars grammar grammar') :
    grammar.ruleMayBeEmpty = grammar'.ruleMayBeEmpty := by
  funext name
  have found := grammars.rule? name
  unfold Grammar.ruleMayBeEmpty
  generalize grammar.rule? name = left, grammar'.rule? name = right at found ⊢
  cases found with
  | none => rfl
  | some rules => exact rules.mayBeEmpty

theorem Grammars.nullable (grammars : link.Grammars grammar grammar') :
    grammar.nullable = grammar'.nullable := by
  funext clause
  rw [Grammar.nullable, Grammar.nullable, grammars.ruleMayBeEmpty]

theorem Grammars.starts (grammars : link.Grammars grammar grammar') :
    grammar.starts = grammar'.starts := by
  funext clause next
  cases next with
  | none => rfl
  | some kind =>
    rw [Grammar.starts, Grammar.starts, grammars.ruleFirst, grammars.ruleMayBeEmpty]

theorem Grammars.firstOf (grammars : link.Grammars grammar grammar') :
    grammar.firstOf = grammar'.firstOf := by
  funext clause
  rw [Grammar.firstOf, Grammar.firstOf, grammars.ruleFirst, grammars.ruleMayBeEmpty]

theorem Grammars.pick (grammars : link.Grammars grammar grammar') :
    grammar.pick = grammar'.pick := by
  funext members next
  rw [Grammar.pick, Grammar.pick, grammars.starts, grammars.nullable]

/-! ### Matching -/

variable {visit : String → Matcher K C (Tree K V)} {visit' : String → Matcher K C' (Tree K V')}
  {caller : String}

theorem matchers_matchSequence {items : List (Clause K)}
    (each : ∀ item ∈ items, link.Matchers link.Trees (grammar.matchClause visit caller item)
      (grammar'.matchClause visit' caller item)) :
    link.Matchers link.Lists (grammar.matchSequence visit caller items)
      (grammar'.matchSequence visit' caller items) := by
  induction items with
  | nil => exact fun alike contexts => .matched .nil alike contexts
  | cons item items ih =>
    obtain ⟨first, later⟩ := List.forall_mem_cons.mp each
    intro tokens tokens' context context' alike contexts
    rw [Grammar.matchSequence, Grammar.matchSequence]
    refine (first alike contexts).andThen fun tree rest rest' after after' left behind => ?_
    exact (ih later left behind).map fun trees => .cons tree trees

/-- By grammars that correspond clauses are matched alike, if the rules inside them are. -/
theorem matchers_matchClause (grammars : link.Grammars grammar grammar')
    (visits : ∀ name, link.Matchers link.Trees (visit name) (visit' name)) (clause : Clause K) :
    link.Matchers link.Trees (grammar.matchClause visit caller clause)
      (grammar'.matchClause visit' caller clause) := by
  induction clause with
  | terminal kind =>
    intro tokens tokens' context context' alike contexts
    cases alike with
    | nil => exact .stopped .nil contexts
    | @cons token token' rest rest' first others =>
      rw [Grammar.matchClause, Grammar.matchClause, ← link.kind_eq first]
      split
      next => exact .matched (.leaf first) others contexts
      next => exact .stopped (.cons first others) contexts
  | rule name => exact visits name
  | sequence items ih =>
    intro tokens tokens' context context' alike contexts
    rw [Grammar.matchClause, Grammar.matchClause]
    exact (matchers_matchSequence ih alike contexts).map .group
  | choice members ih =>
    intro tokens tokens' context context' alike contexts
    rw [Grammar.matchClause_choice, Grammar.matchClause_choice, ← grammars.pick,
      ← nextKind_eq alike, ← grammars.firstOf]
    cases picked : grammar.pick members (nextKind tokens) with
    | none => exact .stopped alike contexts
    | some member => exact ih member (Grammar.mem_of_pick picked) alike contexts
  | zeroOrMore body ih =>
    intro tokens tokens' context context' alike contexts
    rw [Grammar.matchClause, Grammar.matchClause, ← grammars.starts]
    exact (matchers_repeated ih alike contexts).map id
  | oneOrMore body ih =>
    intro tokens tokens' context context' alike contexts
    rw [Grammar.matchClause, Grammar.matchClause, ← grammars.starts, ← grammars.nullable,
      ← grammars.firstOf]
    refine (matchers_repeated ih alike contexts).andThen
      fun items rest rest' after after' left behind => ?_
    cases items with
    | nil =>
      simp only [List.isEmpty_nil, Bool.not_true, Bool.false_eq_true, if_false]
      split
      next => exact (ih left behind).map Trees.singleton
      next => exact .stopped left behind
    | cons item others => exact .matched (.cons item others) left behind
  | optional body ih =>
    intro tokens tokens' context context' alike contexts
    rw [Grammar.matchClause, Grammar.matchClause, ← grammars.starts, ← nextKind_eq alike]
    split
    next => exact ih alike contexts
    next => exact .matched .absent alike contexts
  | group body label ih =>
    intro tokens tokens' context context' alike contexts
    exact (ih alike contexts).map fun trees => .group (trees.groupChildren body)

theorem matchers_matchRule (grammars : link.Grammars grammar grammar') (bound : Nat)
    {rule : Rule K V C} {rule' : Rule K V' C'} (rules : link.Rules rule rule') :
    link.Matchers link.Trees (grammar.matchRule bound rule) (grammar'.matchRule bound rule') := by
  induction bound generalizing rule rule' with
  | zero =>
    intro tokens tokens' context context' alike contexts
    rw [Grammar.matchRule, Grammar.matchRule, rules.name]
    exact .stopped alike contexts
  | succ bound ih =>
    intro tokens tokens' context context' alike contexts
    -- The rules inside are matched with a bound that is smaller by one.
    have visits : ∀ name, link.Matchers link.Trees (grammar.visitor bound name)
        (grammar'.visitor bound name) := by
      intro name
      have found := grammars.rule? name
      unfold Grammar.visitor
      generalize grammar.rule? name = left, grammar'.rule? name = right at found ⊢
      cases found with
      | none =>
        intro _ _ _ _ alike contexts
        exact .stopped alike contexts
      | some rules =>
        intro _ _ _ _ alike contexts
        exact ih rules alike contexts
    have chosen := rules.choose (nextKind tokens)
    rw [Grammar.matchRule_succ, Grammar.matchRule_succ, ← nextKind_eq alike, ← rules.first,
      ← rules.name]
    generalize rule.choose _ = left, rule'.choose _ = right at chosen ⊢
    cases chosen with
    | none => exact .stopped alike contexts
    | @some entry entry' entries =>
      obtain ⟨alternative, number⟩ := entry
      obtain ⟨alternative', number'⟩ := entry'
      obtain ⟨alternatives, rfl⟩ := entries
      dsimp only
      rw [← alternatives.clauses]
      have sequences : link.Matchers link.Lists
          (grammar.matchSequence (grammar.visitor bound) rule.name alternative.clauses)
          (grammar'.matchSequence (grammar'.visitor bound) rule.name alternative.clauses) :=
        matchers_matchSequence fun item _ => matchers_matchClause grammars visits item
      refine (sequences alike contexts).andThen
        fun children rest rest' after after' left behind => ?_
      obtain ⟨values, onward⟩ := alternatives.action children behind
      exact .matched (.node children values) left onward

/-! ### Parsing -/

/-- The errors tell the same of tokens that correspond. -/
inductive Errors (link : Correspondence K V V' C C') : SyntaxError K → SyntaxError K → Prop
  | unexpectedToken {expected found found' rule} :
      link.tokens found found' →
      Errors link (.unexpectedToken expected found rule) (.unexpectedToken expected found' rule)
  | unexpectedEnd {expected tokens tokens' rule} :
      List.Forall₂ link.tokens tokens tokens' →
      Errors link (.unexpectedEnd expected (endOfTokens tokens) rule)
        (.unexpectedEnd expected (endOfTokens tokens') rule)
  | unknownRule {name} : Errors link (.unknownRule name) (.unknownRule name)
  | unboundedNesting {rule} : Errors link (.unboundedNesting rule) (.unboundedNesting rule)

/-- The results come from parses that correspond. -/
structure Results (link : Correspondence K V V' C C') (result : ParseResult K V)
    (result' : ParseResult K V') : Prop where
  root : Option.Rel link.Trees result.root result'.root
  errors : List.Forall₂ link.Errors result.errors result'.errors
  endingPosition : result.endingPosition = result'.endingPosition
  isEnded : result.isEnded = result'.isEnded

omit [TokenKind K] in
theorem results_failed {error error' : SyntaxError K} (errors : link.Errors error error')
    (endingPosition : Nat) :
    link.Results (.failed error endingPosition) (.failed error' endingPosition) :=
  ⟨.none, .cons errors .nil, rfl, rfl⟩

theorem errors_error {tokens rest tokens' rest' : List (Token K)}
    (alike : List.Forall₂ link.tokens tokens tokens') (left : List.Forall₂ link.tokens rest rest')
    (cause : Stop K) : link.Errors (cause.error tokens rest) (cause.error tokens' rest') := by
  cases cause with
  | expecting kinds rule =>
    cases left with
    | nil => exact .unexpectedEnd alike
    | cons first _ => exact .unexpectedToken first
  | unknownRule name => exact .unknownRule
  | unbounded rule => exact .unboundedNesting

/-- Parses by grammars that correspond, of tokens and from contexts that correspond, have results
that do, and so do the contexts behind them. -/
theorem results_parseTokens (grammars : link.Grammars grammar grammar')
    {tokens tokens' : List (Token K)} {context : C} {context' : C'} (alike : List.Forall₂ link.tokens tokens tokens')
    (contexts : link.contexts context context') (start : String) :
    link.Results (grammar.parseTokens tokens start context).1
        (grammar'.parseTokens tokens' start context').1 ∧
      link.contexts (grammar.parseTokens tokens start context).2
        (grammar'.parseTokens tokens' start context').2 := by
  have found := grammars.rule? start
  -- The bound comes from the numbers of tokens and of rules.
  have bounds : grammar'.nestingBound tokens' = grammar.nestingBound tokens := by
    rw [Grammar.nestingBound, Grammar.nestingBound, ← alike.length_eq,
      ← List.Forall₂.length_eq grammars]
  rw [Grammar.parseTokens, Grammar.parseTokens, bounds, ← alike.length_eq]
  generalize grammar.rule? start = left, grammar'.rule? start = right at found ⊢
  cases found with
  | none => exact ⟨results_failed .unknownRule 0, contexts⟩
  | @some rule rule' rules =>
    have outcomes := matchers_matchRule grammars (grammar.nestingBound tokens) rules alike contexts
    dsimp only
    generalize grammar.matchRule _ rule tokens context = outcome,
      grammar'.matchRule _ rule' tokens' context' = outcome' at outcomes ⊢
    cases outcomes with
    | @matched root root' rest rest' after after' trees left behind =>
      have ended : rest.isEmpty = rest'.isEmpty := by cases left <;> rfl
      dsimp only
      rw [← left.length_eq, ← ended]
      exact ⟨⟨.some trees, .nil, rfl, rfl⟩, behind⟩
    | @stopped cause rest rest' after after' left behind =>
      dsimp only
      rw [← left.length_eq]
      exact ⟨results_failed (errors_error alike left cause) _, behind⟩

/-! ### Parses of the same tokens with the same values -/

/-- Tokens and values are the same, and the contexts are related. -/
def ofContexts (K V : Type) {C C' : Type} (contexts : C → C' → Prop) :
    Correspondence K V V C C' where
  tokens := Eq
  values := Eq
  contexts := contexts
  kind_eq := congrArg Token.kind

variable {contexts : C → C' → Prop}

omit [TokenKind K] in
theorem Trees.eq {tree tree' : Tree K V} (trees : (ofContexts K V contexts).Trees tree tree') :
    tree = tree' := by
  induction trees with
  | leaf same => exact congrArg Tree.leaf same
  | node _ same ih =>
    cases ih
    cases same
    rfl
  | absent => rfl
  | nil => rfl
  | cons _ _ ih ih' =>
    cases ih
    cases ih'
    rfl
  | group _ ih =>
    cases ih
    rfl

omit [TokenKind K] in
theorem Errors.eq {error error' : SyntaxError K}
    (errors : (ofContexts K V contexts).Errors error error') : error = error' := by
  cases errors with
  | unexpectedToken same =>
    cases same
    rfl
  | unexpectedEnd same =>
    cases List.forall₂_eq_eq_eq ▸ same
    rfl
  | unknownRule => rfl
  | unboundedNesting => rfl

omit [TokenKind K] in
theorem Results.eq {result result' : ParseResult K V}
    (results : (ofContexts K V contexts).Results result result') : result = result' := by
  obtain ⟨root, errors, endingPosition, isEnded⟩ := result
  obtain ⟨root', errors', endingPosition', isEnded'⟩ := result'
  obtain ⟨roots, errors, rfl, rfl⟩ := results
  have same_errors := List.forall₂_eq_eq_eq ▸ errors.imp fun _ _ => Errors.eq
  cases same_errors
  cases roots with
  | none => rfl
  | some trees =>
    cases trees.eq
    rfl

end Correspondence

end Lookahead
