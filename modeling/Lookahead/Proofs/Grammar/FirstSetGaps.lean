import Lookahead.Proofs.Grammar.FirstQueries

/-!
# What left recursion takes away from first sets

A search that meets a rule on its own way down leaves the rule out there, and what is found so far
stays in the memo for the searches behind it. All rules that are being visited lead to the rule that
is asked for, so it can be left out only if it leads back to itself. A clause that leads to no such
rule, neither by itself nor through other rules, gets all of its kinds, whatever was asked before.
Other clauses get some of theirs.

Main statements: `Analysis.Searches.complete` and `Analysis.firstOfEach_trusted`.
-/

namespace Lookahead

open Relation

/-- No rule that a match of the clause can come to begin with is left recursive. -/
def Clause.Untangled {K : Type} (alternatives : String → List (List (Clause K)))
    (clause : Clause K) : Prop :=
  ∀ name, LeadsWith alternatives clause name →
    ∀ inner, ReflTransGen (Leads alternatives) name inner → ¬ LeftRecursive alternatives inner

namespace Clause

variable {K : Type} {alternatives : String → List (List (Clause K))}

theorem untangled_of_acyclic (acyclic : ∀ name, ¬ LeftRecursive alternatives name)
    (clause : Clause K) : Untangled alternatives clause :=
  fun _ _ inner _ => acyclic inner

theorem untangled_terminal_cons (kind : K) (rest : List (Clause K)) :
    Untangled alternatives (.sequence (.terminal kind :: rest)) := by
  intro name leads
  cases leads with
  | here leads => cases leads
  | behind nothing => cases nothing

theorem Untangled.of_leadsWith {clause other : Clause K}
    (untangled : Untangled alternatives clause)
    (fewer : ∀ name, LeadsWith alternatives other name → LeadsWith alternatives clause name) :
    Untangled alternatives other :=
  fun name leads => untangled name (fewer name leads)

/-- Only a rule with alternatives leads on to a left recursive one. -/
theorem alternatives_ne_nil_of_path {name inner : String}
    (path : ReflTransGen (Leads alternatives) name inner)
    (recursive : LeftRecursive alternatives inner) : alternatives name ≠ [] := by
  intro none
  have further := TransGen.trans_right path (leftRecursive_iff_transGen.mp recursive)
  obtain ⟨next, ⟨-, clauses, member, -⟩, -⟩ := TransGen.head'_iff.mp further
  rw [none] at member
  cases member

theorem Untangled.of_rule {name : String} (untangled : Untangled alternatives (.rule name)) :
    Untangled alternatives (.choice ((alternatives name).map .sequence)) := by
  intro first leads inner path recursive
  cases leads with
  | choice among leads =>
    obtain ⟨clauses, member, rfl⟩ := List.mem_map.mp among
    have defined := alternatives_ne_nil_of_path path recursive
    have step : Leads alternatives name first := ⟨defined, clauses, member, leads⟩
    exact untangled name (.rule name) inner (.head step path) recursive

end Clause

variable {K : Type} [TokenKind K]

/-- Every set that the memo holds for an untangled rule has all kinds that can begin the rule. -/
def FirstMemo.Complete (alternatives : String → List (List (Clause K)))
    (begins : Clause K → K → Prop) (memo : FirstMemo K) : Prop :=
  ∀ name set, memo.lookup name = some (.found set) →
    Clause.Untangled alternatives (.rule name) → ∀ kind, begins (.rule name) kind → kind ∈ set

/-- All rules that are being visited lead to all rules that the clause leads with. -/
def FirstMemo.LeadsTo (alternatives : String → List (List (Clause K))) (memo : FirstMemo K)
    (clause : Clause K) : Prop :=
  ∀ outer, memo.lookup outer = some .entered → ∀ name, alternatives name ≠ [] →
    Clause.LeadsWith alternatives clause name → TransGen (Leads alternatives) outer name

namespace FirstMemo

variable {alternatives : String → List (List (Clause K))} {begins : Clause K → K → Prop}
  {memo : FirstMemo K} {clause : Clause K} {name : String}

theorem Complete.enter (complete : Complete alternatives begins memo) (name : String) :
    Complete alternatives begins ((name, .entered) :: memo) := by
  intro other set known
  rw [List.lookup_cons] at known
  split at known
  · cases known
  · exact complete other set known

theorem Complete.leave {set : KindSet K} (complete : Complete alternatives begins memo)
    (found : Clause.Untangled alternatives (.rule name) →
      ∀ kind, begins (.rule name) kind → kind ∈ set) :
    Complete alternatives begins ((name, .found set) :: memo) := by
  intro other found' known
  rw [List.lookup_cons] at known
  split at known
  next same =>
    obtain rfl : other = name := by simpa using same
    cases known
    exact found
  next => exact complete other found' known

/-- With fewer rules being visited, and fewer rules to lead with, less has to be led to. -/
theorem LeadsTo.mono {before : FirstMemo K} {other : Clause K}
    (leadsTo : LeadsTo alternatives before clause)
    (entered : ∀ outer, memo.lookup outer = some .entered → before.lookup outer = some .entered)
    (fewer : ∀ name, Clause.LeadsWith alternatives other name →
      Clause.LeadsWith alternatives clause name) :
    LeadsTo alternatives memo other :=
  fun outer visited name defined leads =>
    leadsTo outer (entered outer visited) name defined (fewer name leads)

/-- A rule that is entered leads to what its alternatives lead with, and so do the rules that lead
to it. -/
theorem LeadsTo.enter (leadsTo : LeadsTo alternatives memo (.rule name))
    (defined : alternatives name ≠ []) :
    LeadsTo alternatives ((name, .entered) :: memo)
      (.choice ((alternatives name).map .sequence)) := by
  intro outer visited inner known leads
  have step : Leads alternatives name inner := by
    cases leads with
    | choice among leads =>
      obtain ⟨clauses, member, rfl⟩ := List.mem_map.mp among
      exact ⟨known, clauses, member, leads⟩
  rw [List.lookup_cons] at visited
  split at visited
  next same =>
    obtain rfl : outer = name := by simpa using same
    exact .single step
  next => exact (leadsTo outer visited name defined (.rule name)).tail step

end FirstMemo

namespace Analysis

variable {productions : List (Production K)} {clause : Clause K} {memo after : FirstMemo K}
  {set : KindSet K}

/-- A search leaves no rule behind that is being visited and was not before. -/
theorem Searches.visited_before {analysis : Analysis K}
    (searches : Searches analysis clause memo set after) {name : String}
    (visited : after.lookup name = some .entered) :
    memo.lookup name = some .entered := by
  induction searches with
  | @enter other memo set after fresh defined _ ih =>
    -- Only the rule itself was entered, and it is left by now.
    rw [List.lookup_cons] at visited
    split at visited
    next => cases visited
    next different =>
      have before := ih visited
      rw [List.lookup_cons] at before
      simpa [different] using before
  | past _ _ _ ih ih' => exact ih (ih' visited)
  | member _ _ ih ih' => exact ih (ih' visited)
  | halt _ _ ih => exact ih visited
  | zeroOrMore _ ih => exact ih visited
  | oneOrMore _ ih => exact ih visited
  | optional _ ih => exact ih visited
  | group _ ih => exact ih visited
  | _ => exact visited

/-- Where a clause leads with all that its body leads with, and begins with nothing else, a search
for the body misses nothing of the clause. -/
theorem complete_of_body {body : Clause K}
    (leads : ∀ name, Clause.LeadsWith (Production.alternatives productions) body name →
      Clause.LeadsWith (Production.alternatives productions) clause name)
    (begins : ∀ kind, Begins productions clause kind → Begins productions body kind)
    (leadsTo : FirstMemo.LeadsTo (Production.alternatives productions) memo clause)
    (search : FirstMemo.LeadsTo (Production.alternatives productions) memo body →
      FirstMemo.Complete (Production.alternatives productions) (Begins productions) after ∧
        (Clause.Untangled (Production.alternatives productions) body →
          ∀ kind, Begins productions body kind → kind ∈ set)) :
    FirstMemo.Complete (Production.alternatives productions) (Begins productions) after ∧
      (Clause.Untangled (Production.alternatives productions) clause →
        ∀ kind, Begins productions clause kind → kind ∈ set) := by
  obtain ⟨kept, found⟩ := search (leadsTo.mono (fun _ => id) leads)
  exact ⟨kept, fun untangled kind own => found (untangled.of_leadsWith leads) kind
    (begins kind own)⟩

/-- A search under rules that all lead to what is asked for misses none of the kinds of an untangled
clause, and the memo misses none of the kinds of untangled rules. -/
theorem Searches.complete (searches : Searches (ofProductions productions) clause memo set after)
    (complete : FirstMemo.Complete (Production.alternatives productions) (Begins productions) memo)
    (leadsTo : FirstMemo.LeadsTo (Production.alternatives productions) memo clause) :
    FirstMemo.Complete (Production.alternatives productions) (Begins productions) after ∧
      (Clause.Untangled (Production.alternatives productions) clause →
        ∀ kind, Begins productions clause kind → kind ∈ set) := by
  induction searches with
  | terminal kind memo => exact ⟨complete, fun _ _ begins => by simpa using begins⟩
  | found there => exact ⟨complete, complete _ _ there⟩
  | @entered name memo visited =>
    -- The rule leads back to itself, unless no kind can begin it anyway.
    refine ⟨complete, fun untangled kind begins => ?_⟩
    obtain ⟨clauses, member, -⟩ := Clause.Begins.rule_iff.mp begins
    have back := leadsTo name visited name (List.ne_nil_of_mem member) (.rule name)
    exact absurd (leftRecursive_iff_transGen.mpr back) (untangled name (.rule name) name .refl)
  | @unknown name memo _ undefined =>
    have none : name ∉ Production.names productions := by
      rw [← Production.defines_iff]
      exact Bool.eq_false_iff.mp undefined
    exact ⟨complete, fun _ kind begins => absurd begins (not_begins_of_undefined none kind)⟩
  | @enter name memo set after _ defined _ ih =>
    have known : Production.alternatives productions name ≠ [] :=
      Production.alternatives_ne_nil_iff.mpr (Production.defines_iff.mp defined)
    -- The alternatives are searched while one more rule is being visited.
    obtain ⟨kept, found⟩ := ih (complete.enter name) (leadsTo.enter known)
    have all (untangled : Clause.Untangled (Production.alternatives productions) (.rule name))
        (kind : K) (begins : Begins productions (.rule name) kind) : kind ∈ set := by
      obtain ⟨clauses, member, begins⟩ := Clause.Begins.rule_iff.mp begins
      exact found untangled.of_rule kind (.choice (List.mem_map_of_mem member) begins)
    exact ⟨kept.leave all, all⟩
  | nil memo => exact ⟨complete, fun _ kind begins => by cases begins⟩
  | none memo => exact ⟨complete, fun _ kind begins => by cases begins; contradiction⟩
  | past here nothing _ ih ih' =>
    have empty := (nullable_iff_derives_nil productions _).mp nothing
    -- The search of the first clause left all rules that it entered.
    obtain ⟨between, found⟩ := ih complete (leadsTo.mono (fun _ => id) fun _ => .here)
    obtain ⟨kept, found'⟩ := ih' between
      (leadsTo.mono (fun _ => here.visited_before) fun _ => .behind empty)
    refine ⟨kept, fun untangled kind begins => KindSet.mem_union.mpr ?_⟩
    rcases Clause.Begins.cons_iff.mp begins with first | ⟨-, second⟩
    · exact Or.inl (found (untangled.of_leadsWith fun _ => .here) kind first)
    · exact Or.inr (found' (untangled.of_leadsWith fun _ => .behind empty) kind second)
  | halt _ something ih =>
    obtain ⟨kept, found⟩ := ih complete (leadsTo.mono (fun _ => id) fun _ => .here)
    refine ⟨kept, fun untangled kind begins => ?_⟩
    rcases Clause.Begins.cons_iff.mp begins with first | ⟨nothing, -⟩
    · exact found (untangled.of_leadsWith fun _ => .here) kind first
    · exact absurd nothing (by simpa [nullable] using something)
  | @member clause rest _ _ _ _ _ here _ ih ih' =>
    have behind (name : String)
        (leads : Clause.LeadsWith (Production.alternatives productions) (.choice rest) name) :
        Clause.LeadsWith (Production.alternatives productions) (.choice (clause :: rest)) name := by
      cases leads with
      | choice among leads => exact .choice (List.mem_cons_of_mem _ among) leads
    obtain ⟨between, found⟩ := ih complete
      (leadsTo.mono (fun _ => id) fun _ => .choice List.mem_cons_self)
    obtain ⟨kept, found'⟩ := ih' between (leadsTo.mono (fun _ => here.visited_before) behind)
    refine ⟨kept, fun untangled kind begins => KindSet.mem_union.mpr ?_⟩
    obtain ⟨other, among, own⟩ := Clause.Begins.choice_iff.mp begins
    rcases List.mem_cons.mp among with rfl | among
    · exact Or.inl (found (untangled.of_leadsWith fun _ => .choice List.mem_cons_self) kind own)
    · exact Or.inr (found' (untangled.of_leadsWith behind) kind (.choice among own))
  | zeroOrMore _ ih =>
    exact complete_of_body (fun _ => .zeroOrMore) (fun _ begins => by simpa using begins) leadsTo
      (ih complete)
  | oneOrMore _ ih =>
    exact complete_of_body (fun _ => .oneOrMore) (fun _ begins => by simpa using begins) leadsTo
      (ih complete)
  | optional _ ih =>
    exact complete_of_body (fun _ => .optional) (fun _ begins => by simpa using begins) leadsTo
      (ih complete)
  | group _ ih =>
    exact complete_of_body (fun _ => .group) (fun _ begins => by simpa using begins) leadsTo
      (ih complete)

/-! ### One search after the other -/

/-- The set holds only kinds that can begin the clause, and all of them if the clause is
untangled. -/
structure Trusted (productions : List (Production K)) (clause : Clause K) (set : KindSet K) :
    Prop where
  sound : ∀ kind ∈ set, Begins productions clause kind
  complete : Clause.Untangled (Production.alternatives productions) clause →
    ∀ kind, Begins productions clause kind → kind ∈ set

/-- What a memo holds where no search is under way. -/
structure Resting (productions : List (Production K)) (memo : FirstMemo K) : Prop where
  sound : FirstMemo.Sound (Begins productions) memo
  complete : FirstMemo.Complete (Production.alternatives productions) (Begins productions) memo
  left : ∀ name, memo.lookup name ≠ some .entered

theorem Resting.nil : Resting productions ([] : FirstMemo K) where
  sound := by rintro name set ⟨⟩
  complete := by rintro name set ⟨⟩
  left := by rintro name ⟨⟩

theorem Searches.trusted (searches : Searches (ofProductions productions) clause memo set after)
    (resting : Resting productions memo) :
    Trusted productions clause set ∧ Resting productions after := by
  have leadsTo : FirstMemo.LeadsTo (Production.alternatives productions) memo clause :=
    fun outer visited => absurd visited (resting.left outer)
  obtain ⟨sound, keeps⟩ := searches.sound resting.sound
  obtain ⟨complete, all⟩ := searches.complete resting.complete leadsTo
  exact ⟨⟨sound, all⟩, keeps, complete,
    fun name visited => resting.left name (searches.visited_before visited)⟩

/-- Searches one after the other can all be trusted, whatever was asked before. -/
theorem firstOfEach_trusted {α : Type} {subject : α → Clause K}
    {find : α → FirstMemo K → KindSet K × FirstMemo K} (items : List α)
    (searches : ∀ item memo, Searches (ofProductions productions) (subject item) memo
      (find item memo).1 (find item memo).2)
    (resting : Resting productions memo) :
    List.Forall₂ (fun item set => Trusted productions (subject item) set) items
        (firstOfEach find items memo).1 ∧
      Resting productions (firstOfEach find items memo).2 := by
  induction items generalizing memo with
  | nil => exact ⟨.nil, resting⟩
  | cons item rest ih =>
    obtain ⟨here, between⟩ := (searches item memo).trusted resting
    obtain ⟨others, kept⟩ := ih between
    exact ⟨.cons here others, kept⟩

end Analysis

end Lookahead
