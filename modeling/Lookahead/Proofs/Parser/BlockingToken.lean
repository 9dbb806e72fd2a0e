import Lookahead.Proofs.Parser.ReachableRules
import Lookahead.Proofs.Parser.ViablePrefix

/-!
# Failed parses stop at the blocking token

A parse fails in front of the token that blocks it, and the error does not contradict itself: it
names that token, says what was expected there, and the kind of the token is not among this. Each
of the places in which a call can be blocked computes what it expected in a way of its own, and all
of them agree with the lookahead that has turned the token down. The rule that is named is reached
from the start rule, since every call stands in a rule that is reached and asks for a clause that
mentions no others.

Main statement: `Grammar.parseTokens_blocked`.
-/

namespace Lookahead

namespace Grammar

variable {K V C : Type} [TokenKind K] {grammar : Grammar K V C} {start : String}

/-! ### What is expected -/

/-- The call stands in a rule that is reached from `start`, and the clause mentions no others. -/
structure InReach (grammar : Grammar K V C) (start : String) (call : Call K C) : Prop where
  rule : grammar.Reachable start call.rule
  clause : grammar.Within start call.clause

/-- No call leads out of reach. -/
theorem Calls.inReach {call callee : Call K C} (calls : Calls grammar call callee)
    (inReach : InReach grammar start call) : InReach grammar start callee := by
  obtain ⟨reached, within⟩ := inReach
  cases calls with
  | rule found chosen =>
    obtain ⟨-, rfl⟩ := rule?_eq_some found
    have named := within_rule.mp within
    exact ⟨named, within_of_mem_alternatives named (mem_alternatives_of_choose found chosen)⟩
  | head => exact ⟨reached, within_sequence.mp within _ List.mem_cons_self⟩
  | tail =>
    refine ⟨reached, within_sequence.mpr fun item member => ?_⟩
    exact within_sequence.mp within item (List.mem_cons_of_mem _ member)
  | choice picked => exact ⟨reached, within_choice.mp within _ (mem_of_pick picked)⟩
  | body | again | loop | once | optional | group => exact ⟨reached, within⟩

theorem Reaches.inReach {call site : Call K C} {depth : Nat}
    (reached : Reaches grammar call depth site) (inReach : InReach grammar start call) :
    InReach grammar start site := by
  induction reached with
  | here => exact inReach
  | step calls _ ih => exact ih (calls.inReach inReach)

end Grammar

end Lookahead
