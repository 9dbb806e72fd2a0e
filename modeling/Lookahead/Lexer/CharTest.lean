import Lookahead.Text.Escaped

/-!
# Tests on characters

A transition of an automaton is guarded by a test on the next character. Of several tests that
accept a character the most specific one decides: a single character before a range, a range
before an exclusion, and an exclusion before the test that accepts everything.
-/

namespace Lookahead

/-- Which characters a transition accepts. -/
inductive CharTest where
  | char (c : Char)
  /-- Every character from `low` to `high`, both included. -/
  | range (low high : Char)
  /-- Every character that is not in the list. -/
  | except (excluded : List Char)
  | any
  deriving DecidableEq, Repr

namespace CharTest

/-- Whether the test accepts `c`. -/
def accepts : CharTest → Char → Bool
  | .char expected, c => c = expected
  | .range low high, c => low ≤ c && c ≤ high
  | .except excluded, c => !excluded.contains c
  | .any, _ => true

/-- How specific the test is; the lowest rank is tried first. -/
def rank : CharTest → Nat
  | .char _ => 0
  | .range _ _ => 1
  | .except _ => 2
  | .any => 3

instance : ToString CharTest where
  toString
    | .char c => "Char(" ++ Text.quoteChar c ++ ")"
    | .range low high => "Range(" ++ Text.quoteChar low ++ ", " ++ Text.quoteChar high ++ ")"
    | .except excluded => "Except([" ++ ", ".intercalate (excluded.map Text.quoteChar) ++ "])"
    | .any => "Any"

end CharTest

end Lookahead
