import Lookahead.Diagnostic

/-!
# The outcome of building

Building fails closed: a fatal diagnostic takes the value away. Steps are chained so that the
diagnostics of all of them are kept in order.
-/

namespace Lookahead

/-- What was built, if anything, and everything that was found on the way. -/
structure Build (α : Type) where
  value : Option α
  diagnostics : List Diagnostic

namespace Build

variable {α β : Type}

/-- Keeps `value` unless one of the diagnostics is fatal. -/
def ofValue (value : α) (diagnostics : List Diagnostic) : Build α :=
  ⟨if diagnostics.any Diagnostic.isFatal then none else some value, diagnostics⟩

/-- Nothing was built. -/
def failed (diagnostics : List Diagnostic) : Build α := ⟨none, diagnostics⟩

/-- Whether nothing was built. -/
def isError (build : Build α) : Bool := build.value.isNone

/-- The fatal diagnostics. -/
def errors (build : Build α) : List Diagnostic := build.diagnostics.filter Diagnostic.isFatal

/-- The diagnostics that are not fatal. -/
def warnings (build : Build α) : List Diagnostic := build.diagnostics.filter (!·.isFatal)

/-- Changes what was built. -/
def map (change : α → β) (build : Build α) : Build β :=
  ⟨build.value.map change, build.diagnostics⟩

/-- Goes on with another step, whose diagnostics follow those found so far. -/
def andThen (build : Build α) (next : α → Build β) : Build β :=
  match build.value with
  | some value => ⟨(next value).value, build.diagnostics ++ (next value).diagnostics⟩
  | none => failed build.diagnostics

end Build

end Lookahead
