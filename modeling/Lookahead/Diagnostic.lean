import Lookahead.Text.Paint

/-!
# Diagnostics

What is found while a grammar or a lexer is built. A fatal diagnostic means that nothing is
built, a warning leaves the result usable.
-/

namespace Lookahead

/-- How bad a diagnostic is. -/
inductive Severity where
  /-- What was built can be used. -/
  | warning
  /-- Nothing is built. -/
  | fatal
  deriving DecidableEq, Repr

/-- What a diagnostic is about. -/
inductive DiagnosticCode where
  | emptyGrammar
  | undefinedRule
  | duplicateAlternative
  | leftRecursion
  | ambiguousAlternatives
  | unknownStartRule
  | invalidRuleText
  | unknownState
  | duplicateState
  | duplicateEnd
  | deadEndState
  | invalidPattern
  | emptyPattern
  | noLexemes
  deriving DecidableEq, Repr

/-- The name of a code in messages. -/
def DiagnosticCode.name : DiagnosticCode → String
  | .emptyGrammar => "empty-grammar"
  | .undefinedRule => "undefined-rule"
  | .duplicateAlternative => "duplicate-alternative"
  | .leftRecursion => "left-recursion"
  | .ambiguousAlternatives => "ambiguous-alternatives"
  | .unknownStartRule => "unknown-start-rule"
  | .invalidRuleText => "invalid-rule-text"
  | .unknownState => "unknown-state"
  | .duplicateState => "duplicate-state"
  | .duplicateEnd => "duplicate-end"
  | .deadEndState => "dead-end-state"
  | .invalidPattern => "invalid-pattern"
  | .emptyPattern => "empty-pattern"
  | .noLexemes => "no-lexemes"

/-- One finding. `subject` names the rule, lexer state or token kind that it is about. -/
structure Diagnostic where
  severity : Severity
  code : DiagnosticCode
  message : String
  subject : Option String
  deriving DecidableEq, Repr

namespace Diagnostic

/-- Whether nothing is built because of this diagnostic. -/
def isFatal (diagnostic : Diagnostic) : Bool := diagnostic.severity = .fatal

/-- The diagnostic as one line of text. -/
def describe (paint : Text.Paint) (diagnostic : Diagnostic) : String :=
  let level :=
    match diagnostic.severity with
    | .warning => paint.apply .yellow "warning"
    | .fatal => paint.apply .red "error"
  let place :=
    match diagnostic.subject with
    | some subject => " in `" ++ paint.apply .brightBlue subject ++ "`"
    | none => ""
  level ++ "[" ++ diagnostic.code.name ++ "]" ++ place ++ ": " ++ diagnostic.message

end Diagnostic

end Lookahead
