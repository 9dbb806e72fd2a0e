import Lookahead.Grammar.Builder
import Lookahead.Lexer.Basic
import Lookahead.Parser.Matcher
import Lookahead.Parser.Result

/-!
# Parsing

A grammar parses tokens from any of its rules. A parser pairs a grammar with the lexer that makes
tokens of its input and with the rule to start from.
-/

namespace Lookahead

variable {K V C : Type} [TokenKind K]

/-- The place behind the last token. -/
def endOfTokens (tokens : List (Token K)) : Position :=
  match tokens.getLast? with
  | some token => token.ending
  | none => .start

/-- The error that a stop amounts to in front of the tokens `rest`, the last of `tokens`. -/
def Stop.error (cause : Stop K) (tokens rest : List (Token K)) : SyntaxError K :=
  match cause with
  | .expecting kinds rule =>
    match rest with
    | found :: _ => .unexpectedToken kinds.toList found rule
    | [] => .unexpectedEnd kinds.toList (endOfTokens tokens) rule
  | .unknownRule name => .unknownRule name
  | .unbounded rule => .unboundedNesting rule

/-- Parses a prefix of `tokens` from the rule `start`, passing a context from action to action. -/
def Grammar.parseTokens (grammar : Grammar K V C) (tokens : List (Token K)) (start : String)
    (context : C) : ParseResult K V × C :=
  match grammar.rule? start with
  | none => (.failed (.unknownRule start) 0, context)
  | some rule =>
    match grammar.matchRule (grammar.nestingBound tokens) rule tokens context with
    | .matched root rest context =>
      (⟨some root, [], tokens.length - rest.length, rest.isEmpty⟩, context)
    | .stopped cause rest context =>
      (.failed (cause.error tokens rest) (tokens.length - rest.length), context)

/-- A grammar with the lexer that feeds it and the rule to start from. -/
structure Parser (K V C : Type) [TokenKind K] where
  grammar : Grammar K V C
  lexer : Lexer K
  start : String

namespace Parser

/-- Parses `input` from any rule. -/
def parseRule (parser : Parser K V C) (input : List Char) (rule : String) (context : C) :
    ParseResult K V × C :=
  match parser.lexer.tokenize input with
  | .ok tokens => parser.grammar.parseTokens tokens rule context
  | .error error => (.failed (.lexical error) 0, context)

/-- Parses `input` from the start rule. -/
def parseWithContext (parser : Parser K V C) (input : List Char) (context : C) :
    ParseResult K V × C :=
  parser.parseRule input parser.start context

/-- Parses `input` from the start rule with a fresh context. -/
def parse [Inhabited C] (parser : Parser K V C) (input : List Char) : ParseResult K V :=
  (parser.parseWithContext input default).1

end Parser

/-- Resolves what was added and pairs it with a lexer and a start rule. -/
def GrammarBuilder.buildParser (builder : GrammarBuilder K V C) (lexer : Lexer K)
    (start : String) : Build (Parser K V C) :=
  builder.resolve.andThen fun grammar =>
    match grammar.rule? start with
    | some _ => .ofValue ⟨grammar, lexer, start⟩ []
    | none => .failed [(GrammarIssue.unknownStart start : GrammarIssue K).diagnostic builder.policy]

end Lookahead
