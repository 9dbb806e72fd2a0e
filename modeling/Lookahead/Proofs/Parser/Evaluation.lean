import Lookahead.Parser.Basic
import Lookahead.Proofs.Grammar.Coherence

/-!
# Matching as calls and answers

Matching is described here without a bound, as a relation between calls and their answers. A call
asks for a match of a clause in front of some tokens. A match is put together from the matches of
the calls that it makes. A call stops where some call under it is blocked, since nothing is undone
and the first failure ends everything.
-/

namespace Lookahead

/-- What the matcher is asked for: a match of a clause that stands in the rule `rule`, in front
of some tokens and with some context. -/
structure Call (K C : Type) where
  rule : String
  clause : Clause K
  tokens : List (Token K)
  context : C

/-- The alternative that is taken has the number that is recorded. -/
theorem Rule.choose_eq_some {K V C : Type} [TokenKind K] {rule : Rule K V C} {next : Option K}
    {alternative : Alternative K V C} {number : Nat}
    (chosen : rule.choose next = some (alternative, number)) :
    rule.alternatives[number]? = some alternative := by
  have listed : (alternative, number) ∈ rule.alternatives.zipIdx := by
    unfold choose at chosen
    simp only at chosen
    split at chosen
    next found =>
      cases chosen
      exact List.mem_of_find?_eq_some found
    next => exact List.mem_of_find?_eq_some chosen
  exact List.mem_zipIdx_iff_getElem?.mp listed

/-- The number of rules that a call enters itself. -/
def Call.entered {K C : Type} (call : Call K C) : Nat :=
  match call.clause with
  | .rule _ => 1
  | _ => 0

namespace Grammar

variable {K V C : Type} [TokenKind K]

/-- The member of a choice to take where the next token is of the given kind. -/
def pick (grammar : Grammar K V C) (members : List (Clause K)) (next : Option K) :
    Option (Clause K) :=
  (members.find? (grammar.starts · next)).or (members.find? grammar.nullable)

/-- A call has a match: its tree, the tokens that are left and the context behind it. -/
inductive Matches (grammar : Grammar K V C) :
    String → Clause K → List (Token K) → C → Tree K V → List (Token K) → C → Prop
  | terminal {caller token rest context} :
      Matches grammar caller (.terminal token.kind) (token :: rest) context (.leaf token) rest
        context
  | rule {caller name rule alternative number tokens rest context after children} :
      grammar.rule? name = some rule →
      rule.choose (nextKind tokens) = some (alternative, number) →
      Matches grammar rule.name (.sequence alternative.clauses) tokens context
        (.group none children) rest after →
      Matches grammar caller (.rule name) tokens context
        (.node rule.name number children (alternative.action children after).1) rest
        (alternative.action children after).2
  | nil {caller tokens context} :
      Matches grammar caller (.sequence []) tokens context (.group none []) tokens context
  | cons {caller clause others tokens middle rest context between after tree trees} :
      Matches grammar caller clause tokens context tree middle between →
      Matches grammar caller (.sequence others) middle between (.group none trees) rest after →
      Matches grammar caller (.sequence (clause :: others)) tokens context
        (.group none (tree :: trees)) rest after
  | choice {caller members member tokens rest context after tree} :
      grammar.pick members (nextKind tokens) = some member →
      Matches grammar caller member tokens context tree rest after →
      Matches grammar caller (.choice members) tokens context tree rest after
  | stop {caller body tokens context} :
      grammar.starts body (nextKind tokens) = false →
      Matches grammar caller (.zeroOrMore body) tokens context (.many []) tokens context
  | more {caller body tokens middle rest context between after item items} :
      grammar.starts body (nextKind tokens) = true →
      Matches grammar caller body tokens context item middle between →
      middle.length ≠ tokens.length →
      Matches grammar caller (.zeroOrMore body) middle between (.many items) rest after →
      Matches grammar caller (.zeroOrMore body) tokens context (.many (item :: items)) rest after
  | idle {caller body tokens rest context after item} :
      grammar.starts body (nextKind tokens) = true →
      Matches grammar caller body tokens context item rest after →
      rest.length = tokens.length →
      Matches grammar caller (.zeroOrMore body) tokens context (.many [item]) rest after
  | oneOrMore {caller body tokens rest context after item items} :
      Matches grammar caller (.zeroOrMore body) tokens context (.many (item :: items)) rest
        after →
      Matches grammar caller (.oneOrMore body) tokens context (.many (item :: items)) rest after
  | once {caller body tokens rest context after item} :
      grammar.starts body (nextKind tokens) = false → grammar.nullable body = true →
      Matches grammar caller body tokens context item rest after →
      Matches grammar caller (.oneOrMore body) tokens context (.many [item]) rest after
  | absent {caller body tokens context} :
      grammar.starts body (nextKind tokens) = false →
      Matches grammar caller (.optional body) tokens context .absent tokens context
  | present {caller body tokens rest context after tree} :
      grammar.starts body (nextKind tokens) = true →
      Matches grammar caller body tokens context tree rest after →
      Matches grammar caller (.optional body) tokens context tree rest after
  | group {caller body label tokens rest context after tree} :
      Matches grammar caller body tokens context tree rest after →
      Matches grammar caller (.group body label) tokens context
        (.group label (groupChildren body tree)) rest after

/-- The first call makes the second one. Going round a loop once more is a call too. -/
inductive Calls (grammar : Grammar K V C) : Call K C → Call K C → Prop
  | rule {caller name rule alternative number tokens context} :
      grammar.rule? name = some rule →
      rule.choose (nextKind tokens) = some (alternative, number) →
      Calls grammar ⟨caller, .rule name, tokens, context⟩
        ⟨rule.name, .sequence alternative.clauses, tokens, context⟩
  | head {caller clause others tokens context} :
      Calls grammar ⟨caller, .sequence (clause :: others), tokens, context⟩
        ⟨caller, clause, tokens, context⟩
  | tail {caller clause others tokens middle context between tree} :
      Matches grammar caller clause tokens context tree middle between →
      Calls grammar ⟨caller, .sequence (clause :: others), tokens, context⟩
        ⟨caller, .sequence others, middle, between⟩
  | choice {caller members member tokens context} :
      grammar.pick members (nextKind tokens) = some member →
      Calls grammar ⟨caller, .choice members, tokens, context⟩ ⟨caller, member, tokens, context⟩
  | body {caller body tokens context} :
      grammar.starts body (nextKind tokens) = true →
      Calls grammar ⟨caller, .zeroOrMore body, tokens, context⟩ ⟨caller, body, tokens, context⟩
  | again {caller body tokens middle context between item} :
      grammar.starts body (nextKind tokens) = true →
      Matches grammar caller body tokens context item middle between →
      middle.length ≠ tokens.length →
      Calls grammar ⟨caller, .zeroOrMore body, tokens, context⟩
        ⟨caller, .zeroOrMore body, middle, between⟩
  | loop {caller body tokens context} :
      Calls grammar ⟨caller, .oneOrMore body, tokens, context⟩
        ⟨caller, .zeroOrMore body, tokens, context⟩
  | once {caller body tokens context} :
      grammar.starts body (nextKind tokens) = false → grammar.nullable body = true →
      Calls grammar ⟨caller, .oneOrMore body, tokens, context⟩ ⟨caller, body, tokens, context⟩
  | optional {caller body tokens context} :
      grammar.starts body (nextKind tokens) = true →
      Calls grammar ⟨caller, .optional body, tokens, context⟩ ⟨caller, body, tokens, context⟩
  | group {caller body label tokens context} :
      Calls grammar ⟨caller, .group body label, tokens, context⟩ ⟨caller, body, tokens, context⟩

/-- The call fails by itself. -/
inductive Blocked (grammar : Grammar K V C) : Call K C → Stop K → Prop
  | terminal {caller kind tokens context} :
      nextKind tokens ≠ some kind →
      Blocked grammar ⟨caller, .terminal kind, tokens, context⟩
        (.expecting (.singleton kind) caller)
  | rule {caller name rule tokens context} :
      grammar.rule? name = some rule → rule.choose (nextKind tokens) = none →
      Blocked grammar ⟨caller, .rule name, tokens, context⟩ (.expecting rule.first rule.name)
  | unknown {caller name tokens context} :
      grammar.rule? name = none →
      Blocked grammar ⟨caller, .rule name, tokens, context⟩ (.unknownRule name)
  | choice {caller members tokens context} :
      grammar.pick members (nextKind tokens) = none →
      Blocked grammar ⟨caller, .choice members, tokens, context⟩
        (.expecting (grammar.firstOf (.choice members)) caller)
  | oneOrMore {caller body tokens context} :
      grammar.starts body (nextKind tokens) = false → grammar.nullable body = false →
      Blocked grammar ⟨caller, .oneOrMore body, tokens, context⟩
        (.expecting (grammar.firstOf body) caller)

/-- The first call leads to the second one, entering so many rules on the way. -/
inductive Reaches (grammar : Grammar K V C) : Call K C → Nat → Call K C → Prop
  | here (call : Call K C) : Reaches grammar call 0 call
  | step {call callee site depth} :
      Calls grammar call callee → Reaches grammar callee depth site →
      Reaches grammar call (depth + call.entered) site

/-- The call stops: somewhere under it a call is blocked, in front of the tokens that are left
and with the context as it is then. -/
def Stops (grammar : Grammar K V C) (call : Call K C) (cause : Stop K) (rest : List (Token K))
    (after : C) : Prop :=
  ∃ depth site, Reaches grammar call depth site ∧ Blocked grammar site cause ∧
    site.tokens = rest ∧ site.context = after

/-! ### What is taken -/

theorem mem_of_pick {grammar : Grammar K V C} {members : List (Clause K)} {next : Option K}
    {member : Clause K} (picked : grammar.pick members next = some member) : member ∈ members := by
  rcases Option.or_eq_some_iff.mp picked with found | ⟨-, found⟩
  · exact List.mem_of_find?_eq_some found
  · exact List.mem_of_find?_eq_some found

theorem mem_alternatives_of_choose {grammar : Grammar K V C} {name : String} {rule : Rule K V C}
    (found : grammar.rule? name = some rule) {next : Option K} {alternative : Alternative K V C}
    {number : Nat} (chosen : rule.choose next = some (alternative, number)) :
    alternative.clauses ∈ grammar.alternatives name := by
  rw [alternatives_of_some found]
  exact List.mem_map_of_mem (List.mem_of_getElem? (Rule.choose_eq_some chosen))

/-! ### What is made -/

theorem Matches.eq_group {grammar : Grammar K V C} {caller : String} {items : List (Clause K)}
    {tokens rest : List (Token K)} {context after : C} {tree : Tree K V}
    (matched : Matches grammar caller (.sequence items) tokens context tree rest after) :
    ∃ children, tree = .group none children := by
  cases matched with
  | nil => exact ⟨_, rfl⟩
  | cons => exact ⟨_, rfl⟩

theorem Matches.eq_many {grammar : Grammar K V C} {caller : String} {body : Clause K}
    {tokens rest : List (Token K)} {context after : C} {tree : Tree K V}
    (matched : Matches grammar caller (.zeroOrMore body) tokens context tree rest after) :
    ∃ items, tree = .many items := by
  cases matched with
  | stop => exact ⟨_, rfl⟩
  | more => exact ⟨_, rfl⟩
  | idle => exact ⟨_, rfl⟩

/-! ### What is read -/

/-- A match reads tokens from the front. -/
theorem Matches.suffix {grammar : Grammar K V C} {caller : String} {clause : Clause K}
    {tokens rest : List (Token K)} {context after : C} {tree : Tree K V}
    (matched : Matches grammar caller clause tokens context tree rest after) : rest <:+ tokens := by
  induction matched with
  | terminal => exact List.suffix_cons _ _
  | rule _ _ _ ih => exact ih
  | nil => exact List.suffix_rfl
  | cons _ _ ih ih' => exact ih'.trans ih
  | choice _ _ ih => exact ih
  | stop => exact List.suffix_rfl
  | more _ _ _ _ ih ih' => exact ih'.trans ih
  | idle _ _ _ ih => exact ih
  | oneOrMore _ ih => exact ih
  | once _ _ _ ih => exact ih
  | absent => exact List.suffix_rfl
  | present _ _ ih => exact ih
  | group _ ih => exact ih

/-- A call is made in front of tokens that its caller had in front of it. -/
theorem Calls.suffix {grammar : Grammar K V C} {call callee : Call K C}
    (calls : Calls grammar call callee) : callee.tokens <:+ call.tokens := by
  cases calls with
  | tail matched => exact matched.suffix
  | again _ matched _ => exact matched.suffix
  | _ => exact List.suffix_rfl

/-- A call that is reached stands in front of tokens that the first call had in front of it. -/
theorem Reaches.suffix {grammar : Grammar K V C} {call site : Call K C} {depth : Nat}
    (reached : Reaches grammar call depth site) : site.tokens <:+ call.tokens := by
  induction reached with
  | here => exact List.suffix_rfl
  | step calls _ ih => exact ih.trans calls.suffix

end Grammar

end Lookahead
