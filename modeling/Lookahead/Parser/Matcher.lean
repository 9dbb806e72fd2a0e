import Lookahead.Grammar.Basic

/-!
# Matching tokens against a grammar

Matching goes from left to right and never back. Whatever has to be decided, such as which
alternative of a rule to take, whether to repeat a clause once more, or whether an optional
clause is there, is decided by the next token alone. The first failure ends the match; the tokens
that were not read and the context of the actions are kept as they were then.
-/

namespace Lookahead

/-- Why matching stopped. -/
inductive Stop (K : Type) [TokenKind K] where
  /-- The rule needed a token of one of the kinds. -/
  | expecting (kinds : KindSet K) (rule : String)
  /-- A clause mentions a rule that the grammar does not have. -/
  | unknownRule (name : String)
  /-- The rule was reached through more rules than the bound allows. -/
  | unbounded (rule : String)
  deriving DecidableEq

/-- What came of matching, with the tokens that are left and the context. -/
inductive Outcome (K C α : Type) [TokenKind K] where
  | matched (result : α) (rest : List (Token K)) (context : C)
  | stopped (cause : Stop K) (rest : List (Token K)) (context : C)

/-- Matches the next tokens, changing a context on the way. -/
abbrev Matcher (K C α : Type) [TokenKind K] := List (Token K) → C → Outcome K C α

namespace Outcome

variable {K C α β : Type} [TokenKind K]

/-- Goes on matching behind what was matched. -/
def andThen (outcome : Outcome K C α) (next : α → Matcher K C β) : Outcome K C β :=
  match outcome with
  | .matched result rest context => next result rest context
  | .stopped cause rest context => .stopped cause rest context

/-- Changes the result. -/
def map (change : α → β) (outcome : Outcome K C α) : Outcome K C β :=
  match outcome with
  | .matched result rest context => .matched (change result) rest context
  | .stopped cause rest context => .stopped cause rest context

end Outcome

/-- The kind of the next token. -/
def nextKind {K : Type} (tokens : List (Token K)) : Option K := tokens.head?.map (·.kind)

namespace Matcher

variable {K C α : Type} [TokenKind K]

/-- Matches again and again while the next token can start a match, at most `bound` times. A
match that reads nothing is the last one. -/
def repeatWhile (canStart : Option K → Bool) (body : Matcher K C α) :
    Nat → Matcher K C (List α)
  | 0, tokens, context => .matched [] tokens context
  | bound + 1, tokens, context =>
    if canStart (nextKind tokens) then
      (body tokens context).andThen fun item rest context =>
        -- A match that leaves as many tokens as there were would go on for ever.
        if rest.length = tokens.length then .matched [item] rest context
        else (repeatWhile canStart body bound rest context).map (item :: ·)
    else .matched [] tokens context

/-- Matches again and again while the next token can start a match. Every match but the last
reads a token, so there is one for each token at most. -/
def repeated (canStart : Option K → Bool) (body : Matcher K C α) : Matcher K C (List α) :=
  fun tokens context => repeatWhile canStart body tokens.length tokens context

end Matcher

namespace Grammar

variable {K V C : Type} [TokenKind K]

/-- What a group holds of the match of its body: the items of a sequence are taken out of it. -/
def groupChildren (body : Clause K) (tree : Tree K V) : List (Tree K V) :=
  match body, tree with
  | .sequence _, .group _ children => children
  | _, _ => [tree]

mutual
/-- Matches a clause that stands in the rule `rule`; `visit` matches a rule by its name. -/
def matchClause (grammar : Grammar K V C) (visit : String → Matcher K C (Tree K V))
    (rule : String) : Clause K → Matcher K C (Tree K V)
  | .terminal kind, tokens, context =>
    match tokens with
    | token :: rest =>
      if token.kind = kind then .matched (.leaf token) rest context
      else .stopped (.expecting (.singleton kind) rule) (token :: rest) context
    | [] => .stopped (.expecting (.singleton kind) rule) [] context
  | .rule name, tokens, context => visit name tokens context
  | .sequence items, tokens, context =>
    (matchSequence grammar visit rule items tokens context).map (.group none)
  | .choice members, tokens, context =>
    match matchMember grammar visit rule (grammar.starts · (nextKind tokens)) members with
    | some chosen => chosen tokens context
    | none =>
      -- No member begins with the next token, so only one that reads nothing can match.
      match matchMember grammar visit rule grammar.nullable members with
      | some chosen => chosen tokens context
      | none => .stopped (.expecting (grammar.firstOf (.choice members)) rule) tokens context
  | .zeroOrMore body, tokens, context =>
    (Matcher.repeated (grammar.starts body) (matchClause grammar visit rule body) tokens
      context).map .many
  | .oneOrMore body, tokens, context =>
    (Matcher.repeated (grammar.starts body) (matchClause grammar visit rule body) tokens
      context).andThen fun items rest context =>
        if !items.isEmpty then .matched (.many items) rest context
        else if grammar.nullable body then
          -- The one match that has to be there reads nothing.
          (matchClause grammar visit rule body rest context).map fun item => .many [item]
        else .stopped (.expecting (grammar.firstOf body) rule) rest context
  | .optional body, tokens, context =>
    if grammar.starts body (nextKind tokens) then
      matchClause grammar visit rule body tokens context
    else .matched .absent tokens context
  | .group body label, tokens, context =>
    (matchClause grammar visit rule body tokens context).map fun tree =>
      .group label (groupChildren body tree)

/-- Matches clauses one after the other. -/
def matchSequence (grammar : Grammar K V C) (visit : String → Matcher K C (Tree K V))
    (rule : String) : List (Clause K) → Matcher K C (List (Tree K V))
  | [], tokens, context => .matched [] tokens context
  | clause :: others, tokens, context =>
    (matchClause grammar visit rule clause tokens context).andThen fun tree rest context =>
      (matchSequence grammar visit rule others rest context).map (tree :: ·)

/-- The matcher of the first clause that is accepted. -/
def matchMember (grammar : Grammar K V C) (visit : String → Matcher K C (Tree K V))
    (rule : String) (accept : Clause K → Bool) :
    List (Clause K) → Option (Matcher K C (Tree K V))
  | [] => none
  | clause :: others =>
    if accept clause then some (matchClause grammar visit rule clause)
    else matchMember grammar visit rule accept others
end

end Grammar

/-- The alternative to take where the next token is of the given kind, with its number: the
first one that can begin with the kind, or else the first one that can match nothing. -/
def Rule.choose {K V C : Type} [TokenKind K] (rule : Rule K V C) (next : Option K) :
    Option (Alternative K V C × Nat) :=
  let begins (entry : Alternative K V C × Nat) : Bool :=
    match next with
    | some kind => kind ∈ entry.1.first
    | none => false
  match rule.alternatives.zipIdx.find? begins with
  | some entry => some entry
  | none => rule.alternatives.zipIdx.find? (·.1.mayBeEmpty)

namespace Grammar

variable {K V C : Type} [TokenKind K]

/-- Matches a rule, entering at most `bound` rules inside one another. -/
def matchRule (grammar : Grammar K V C) : Nat → Rule K V C → Matcher K C (Tree K V)
  | 0, rule, tokens, context => .stopped (.unbounded rule.name) tokens context
  | bound + 1, rule, tokens, context =>
    let visit (name : String) : Matcher K C (Tree K V) :=
      match grammar.rule? name with
      | some inner => matchRule grammar bound inner
      | none => .stopped (.unknownRule name)
    match rule.choose (nextKind tokens) with
    | none => .stopped (.expecting rule.first rule.name) tokens context
    | some (alternative, number) =>
      (matchSequence grammar visit rule.name alternative.clauses tokens context).andThen
        fun children rest context =>
          let result := alternative.action children context
          .matched (.node rule.name number children result.1) rest result.2

/-- How many rules can be entered inside one another on so many tokens. Without left recursion
a rule is not entered again before a token was read. -/
def nestingBound (grammar : Grammar K V C) (tokens : List (Token K)) : Nat :=
  (tokens.length + 1) * grammar.rules.length

end Grammar

end Lookahead
