import Lookahead.Build
import Lookahead.Lexer.Basic
import Lookahead.Regex.Match
import Lookahead.Regex.Pattern

/-!
# Lexers from regular expressions

Such a lexer has one regular expression for each lexeme. All of them are tried at a place in the
input; the longest match wins, and of several longest matches that of the lexeme that was
declared first.
-/

namespace Lookahead

/-- The place behind `text`, where a carriage return and a line feed end a line together, and
each of them ends one alone. -/
def Position.advanceLineEnds (position : Position) : List Char → Position
  | [] => position
  | '\r' :: '\n' :: rest =>
    advanceLineEnds ⟨position.index + 2, position.line + 1, 1⟩ rest
  | c :: rest =>
    if c = '\r' || c = '\n' then
      advanceLineEnds ⟨position.index + c.utf8Size, position.line + 1, 1⟩ rest
    else
      advanceLineEnds ⟨position.index + c.utf8Size, position.line, position.column + 1⟩ rest

/-- The place behind the character `c`, with the character behind that in sight, for counters. The
line of a carriage return and a line feed is ended by the line feed. -/
def Position.passLineEndIn (counting : Counting) (position : Position) (c : Char)
    (following : Option Char) : Except Overflow Position :=
  if c = '\r' && following = some '\n' then do
    return { position with index := ← counting.add position.index c.utf8Size }
  else
    position.passIn counting c.utf8Size (c = '\r' || c = '\n')

/-- The place behind `text`, where lines end in the same ways, for counters. -/
def Position.advanceLineEndsIn (counting : Counting) (position : Position) :
    List Char → Except Overflow Position
  | [] => .ok position
  | c :: rest => do
    let next ← position.passLineEndIn counting c rest.head?
    advanceLineEndsIn counting next rest

/-- A lexeme: how many characters of the text that is left it matches, if any, and what becomes
of them. -/
structure Lexeme (K : Type) where
  kind : K
  matchLength : List Char → Option Nat
  /-- Whether the text is passed over without a token. -/
  skipped : Bool
  /-- Whether line ends of all forms are counted in the text. -/
  lineEnding : Bool

/-- The place behind a text of the lexeme. -/
def Lexeme.advance {K : Type} (lexeme : Lexeme K) (position : Position) (text : List Char) :
    Position :=
  if lexeme.lineEnding then position.advanceLineEnds text else position.advanceOver '\n' text

/-- The place behind a text of the lexeme, for counters. -/
def Lexeme.advanceIn {K : Type} (counting : Counting) (lexeme : Lexeme K) (position : Position)
    (text : List Char) : Except Overflow Position :=
  if lexeme.lineEnding then position.advanceLineEndsIn counting text
  else position.advanceOverIn counting '\n' text

/-- The lexemes of a lexer, in the order of declaration. -/
structure LexemeTable (K : Type) where
  lexemes : List (Lexeme K)

namespace LexemeTable

variable {K : Type}

/-- The lexeme with the longest match that is not empty, and the length of that match. -/
def longest (text : List Char) : List (Lexeme K) → Option (Lexeme K × Nat)
  | [] => none
  | lexeme :: rest =>
    let others := longest text rest
    match lexeme.matchLength text with
    | none => others
    | some length =>
      if length = 0 then others
      else
        match others with
        | some (other, longer) =>
          -- Of two matches of one length that of the earlier lexeme counts.
          if length < longer then some (other, longer) else some (lexeme, length)
        | none => some (lexeme, length)

/-- Reads the next token of `text`, which starts at `position` of `input`, passing over at most
`bound` skipped lexemes on the way. -/
def read (table : LexemeTable K) (input : List Char) :
    Nat → Position → List Char → Except LexError (Option (Token K × Position))
  | 0, _, _ => .ok none
  | bound + 1, position, text =>
    if text.isEmpty then .ok none
    else
      match longest text table.lexemes with
      | none => .error (.unexpected input '\n' position)
      | some (lexeme, length) =>
        let next := lexeme.advance position (text.take length)
        if lexeme.skipped then read table input bound next (text.drop length)
        else .ok (some (⟨lexeme.kind, text.take length, position⟩, next))

/-- Reads the next token of `input` from `position` on. A lexeme is not empty, so the length of
the text that is left bounds the number of those that are skipped. -/
def run (table : LexemeTable K) (input : List Char) (position : Position) :
    Except LexError (Option (Token K × Position)) :=
  match Text.seek input position.index with
  | .beyond => .ok none
  | .inside c => .error (.misaligned c position)
  | .before text => table.read input text.length position text

/-- The lexemes as a lexer. -/
def lexer (table : LexemeTable K) : Lexer K := ⟨table.run⟩

end LexemeTable

/-- A lexeme as it is declared, by a pattern. -/
structure LexemeDeclaration (K : Type) where
  kind : K
  pattern : String
  skipped : Bool
  lineEnding : Bool
  deriving DecidableEq, Repr

namespace LexemeDeclaration

variable {K : Type}

/-- The pattern, held to the start of the text. -/
def anchored (declaration : LexemeDeclaration K) : List Char :=
  ("^(?:" ++ declaration.pattern ++ ")").toList

/-- The lexeme that a regular expression makes. Its text reaches to the end of the match. -/
def lexeme (declaration : LexemeDeclaration K) (searcher : Searcher) : Lexeme K where
  kind := declaration.kind
  matchLength text := (searcher.find? text).map fun (skipped, length) => skipped + length
  skipped := declaration.skipped
  lineEnding := declaration.lineEnding

end LexemeDeclaration

/-- What can be wrong with the lexemes of a lexer. -/
inductive LexemeIssue (K : Type) where
  | noLexemes
  /-- The pattern is not well formed. -/
  | invalidPattern (kind : K) (pattern : String)
  /-- The pattern matches the empty text, so it could match everywhere. -/
  | emptyPattern (kind : K) (pattern : String)
  deriving DecidableEq, Repr

/-- How an issue is reported. The text on a pattern that is not well formed ends behind the colon,
where what the engine for regular expressions says about the pattern would follow. -/
def LexemeIssue.diagnostic {K : Type} [TokenKind K] : LexemeIssue K → Diagnostic
  | .noLexemes => ⟨.fatal, .noLexemes, "no lexemes were declared", none⟩
  | .invalidPattern kind pattern =>
    ⟨.fatal, .invalidPattern, "pattern `" ++ pattern ++ "` is invalid: ",
      some (TokenKind.label kind)⟩
  | .emptyPattern kind pattern =>
    ⟨.fatal, .emptyPattern, "pattern `" ++ pattern ++ "` matches the empty string",
      some (TokenKind.label kind)⟩

/-- The lexeme of a declaration, or what is wrong with it. -/
def LexemeDeclaration.compile {K : Type} (declaration : LexemeDeclaration K) :
    Except (LexemeIssue K) (Lexeme K) :=
  match Regex.ofPattern? declaration.anchored with
  | none => .error (.invalidPattern declaration.kind declaration.pattern)
  | some regex =>
    let searcher := regex.searcher
    if searcher.matchesEmpty then .error (.emptyPattern declaration.kind declaration.pattern)
    else .ok (declaration.lexeme searcher)

/-- What is wrong with declarations, where `compiled` is what they make. -/
def LexemeIssue.ofCompiled {K : Type} (compiled : List (Except (LexemeIssue K) (Lexeme K))) :
    List (LexemeIssue K) :=
  let found := compiled.filterMap fun
    | .ok _ => none
    | .error issue => some issue
  if compiled.isEmpty then [.noLexemes] else found

/-- The lexer of the declarations, unless one of them went wrong. -/
def LexemeTable.build {K : Type} [TokenKind K] (declarations : List (LexemeDeclaration K)) :
    Build (LexemeTable K) :=
  let compiled := declarations.map (·.compile)
  .ofValue ⟨compiled.filterMap (·.toOption)⟩
    ((LexemeIssue.ofCompiled compiled).map (·.diagnostic))

end Lookahead
