import Lookahead.Grammar.Resolve

/-!
# Declaring a grammar

Productions are declared one by one, as clauses or as text. A text that is no production is
reported together with everything else when the grammar is resolved.
-/

namespace Lookahead

/-- A grammar in the making: the productions that were read, and what was wrong with others. -/
structure GrammarBuilder (K V C : Type) [TokenKind K] where
  productions : List (SemanticProduction K V C) := []
  pending : List (GrammarIssue K) := []
  policy : OverlapPolicy := .warn

namespace GrammarBuilder

variable {K V C : Type} [TokenKind K]

/-- A builder without productions. -/
def empty (policy : OverlapPolicy) : GrammarBuilder K V C := { policy }

/-- Adds a production. -/
def add (builder : GrammarBuilder K V C) (production : SemanticProduction K V C) :
    GrammarBuilder K V C :=
  { builder with productions := builder.productions ++ [production] }

/-- Adds a production that is written as text, where `kind?` tells the token kind of a name. -/
def addText (builder : GrammarBuilder K V C) (kind? : String → Option K) (text : List Char)
    (action : Action K V C) : GrammarBuilder K V C :=
  match ProductionText.read kind? text with
  | .ok production => builder.add ⟨production, action⟩
  | .error error => { builder with pending := builder.pending ++ [.invalidText text error] }

/-- Resolves what was added. -/
def resolve (builder : GrammarBuilder K V C) : Build (Grammar K V C) :=
  Grammar.resolve builder.policy builder.pending builder.productions

end GrammarBuilder

end Lookahead
