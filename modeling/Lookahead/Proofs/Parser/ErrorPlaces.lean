import Lookahead.Proofs.Parser.Determinacy
import Lookahead.Proofs.Text.Lines

/-!
# Where syntax errors point

A parse stops in front of one of its tokens or behind the last one, and this is what the error is
about. An error with a position is shown under the line of that number. If the position was made by
going over all the text in front of a place, this is the line around the place.

Main statements: `SyntaxError.pointsTo_of_position?` and `Parser.concerns_of_mem_errors`.
-/

namespace Lookahead

variable {K V C : Type} [TokenKind K]

/-! ### What is shown -/

/-- The error points to the place between `front` and `behind`: it is positioned there, and the line
around this place is shown with a caret behind as many characters as the line has in `front`. -/
structure SyntaxError.PointsTo (error : SyntaxError K) (lineBreak : Char)
    (front behind : List Char) : Prop where
  placed : error.position? = some (Position.start.advanceOver lineBreak front)
  shown : ∀ paint : Text.Paint, error.render paint (front ++ behind) lineBreak =
    String.ofList (Text.lineAround lineBreak front behind) ++ "\n" ++
      String.ofList (List.replicate (Text.lastLine lineBreak front).length ' ') ++
      paint.apply .red "^" ++ "\n" ++ error.describe paint

/-- The line that the position of a place names is the line around the place. -/
theorem Position.getElem?_lines (lineBreak : Char) (front behind : List Char) :
    let position := Position.start.advanceOver lineBreak front
    (Text.lines lineBreak (front ++ behind))[position.line - 1]? =
        some (Text.lastLine lineBreak front ++ behind.takeWhile (· != lineBreak)) ∧
      position.column - 1 = (Text.lastLine lineBreak front).length := by
  intro position
  have counts := counts_start_advanceOver lineBreak front
  have number : position.line - 1 = front.count lineBreak := by
    rw [counts.line, Nat.add_sub_cancel_left]
  constructor
  · rw [number]
    exact Text.getElem?_lines_count lineBreak front behind
  · rw [counts.column, Nat.add_sub_cancel_left]

/-- An error that is no lexical error points to its position. -/
theorem SyntaxError.pointsTo_of_position? {error : SyntaxError K} {lineBreak : Char}
    {front : List Char} (syntactic : error.source? = none)
    (placed : error.position? = some (Position.start.advanceOver lineBreak front))
    (behind : List Char) : error.PointsTo lineBreak front behind := by
  obtain ⟨line, column⟩ := Position.getElem?_lines lineBreak front behind
  refine ⟨placed, fun paint => ?_⟩
  cases error with
  | unexpectedToken expected found rule =>
    have own := Option.some.inj placed
    rw [render]
    dsimp only
    rw [own, line, column]
    rfl
  | unexpectedEnd expected position rule =>
    have own := Option.some.inj placed
    rw [render]
    dsimp only
    rw [own, line, column]
    rfl
  | lexical error => cases syntactic
  | unknownRule rule => cases placed
  | unboundedNesting rule => cases placed

/-! ### What an error is about -/

/-- The error concerns one of the tokens, the end of all of them, or none of this. -/
inductive SyntaxError.Concerns (tokens : List (Token K)) : SyntaxError K → Prop
  | token {expected : List K} {found : Token K} {rule : String} :
      found ∈ tokens → Concerns tokens (.unexpectedToken expected found rule)
  | ending {expected : List K} {rule : String} :
      Concerns tokens (.unexpectedEnd expected (endOfTokens tokens) rule)
  | unknownRule {rule : String} : Concerns tokens (.unknownRule rule)
  | unboundedNesting {rule : String} : Concerns tokens (.unboundedNesting rule)

theorem Stop.concerns (cause : Stop K) {tokens rest : List (Token K)} (suffix : rest <:+ tokens) :
    (cause.error tokens rest).Concerns tokens := by
  cases cause with
  | expecting kinds rule =>
    cases rest with
    | nil => exact .ending
    | cons found others => exact .token (suffix.subset List.mem_cons_self)
  | unknownRule name => exact .unknownRule
  | unbounded rule => exact .unboundedNesting

namespace Grammar

/-- Matching stops in front of the last tokens of those that were given, even at the bound. -/
theorem Explained.suffix {grammar : Grammar K V C} {bound : Nat} {call : Call K C}
    {cause : Stop K} {rest : List (Token K)} {after : C}
    (explained : Explained grammar bound call (.stopped cause rest after)) :
    rest <:+ call.tokens := by
  rcases explained with ⟨depth, site, reached, -, rfl, -⟩ | ⟨site, reached, -, rfl, -⟩
  · exact reached.suffix
  · exact reached.suffix

theorem concerns_of_mem_errors (grammar : Grammar K V C) {tokens : List (Token K)}
    {start : String} {context : C} {error : SyntaxError K}
    (member : error ∈ (grammar.parseTokens tokens start context).1.errors) :
    error.Concerns tokens := by
  cases found : grammar.rule? start with
  | none =>
    rw [parseTokens, found] at member
    obtain rfl : error = .unknownRule start := List.mem_singleton.mp member
    exact .unknownRule
  | some rule =>
    have explained := run_explained grammar (grammar.nestingBound tokens)
      ⟨start, .rule start, tokens, context⟩
    rw [parseTokens_of_some found] at member
    split at member
    next => cases member
    next cause rest after stopped =>
      rw [stopped] at explained
      obtain rfl : error = cause.error tokens rest := List.mem_singleton.mp member
      exact cause.concerns explained.suffix

end Grammar

/-- Parsing an input fails for a lexical error, or for what its tokens are. -/
theorem Parser.concerns_of_mem_errors {parser : Parser K V C} {input : List Char} {rule : String}
    {context : C} {error : SyntaxError K}
    (member : error ∈ (parser.parseRule input rule context).1.errors) :
    (∃ failure, parser.lexer.tokenize input = .error failure ∧ error = .lexical failure) ∨
      ∃ tokens, parser.lexer.tokenize input = .ok tokens ∧ error.Concerns tokens := by
  rw [parseRule] at member
  split at member
  next tokens tokenized =>
    exact Or.inr ⟨tokens, tokenized, parser.grammar.concerns_of_mem_errors member⟩
  next failure failed =>
    exact Or.inl ⟨failure, failed, List.mem_singleton.mp member⟩

end Lookahead
