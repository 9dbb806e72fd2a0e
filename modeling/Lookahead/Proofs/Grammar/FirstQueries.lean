import Lookahead.Proofs.Grammar.ShortestCycle

/-!
# Whatever is asked for first sets

Searches are described here without a bound, as a relation between what is asked for, the memo
before, the set that is found and the memo behind. Every rule is entered once, so the bound of a
search is never felt. What is found can always be begun with, since a rule that is left out only
takes kinds away; and without left recursion no rule is left out.

Main statement: `Analysis.firstQueries_exact`.
-/

namespace Lookahead

/-- What can be asked for. -/
inductive FirstQuery (K : Type) where
  | rule (name : String)
  | clause (clause : Clause K)
  | sequence (clauses : List (Clause K))

/-- The clause whose first set is asked for. -/
def FirstQuery.subject {K : Type} : FirstQuery K → Clause K
  | .rule name => .rule name
  | .clause inner => inner
  | .sequence clauses => .sequence clauses

variable {K : Type} [TokenKind K]

/-- Every kind that the memo holds for a rule can begin the rule. -/
def FirstMemo.Sound (begins : Clause K → K → Prop) (memo : FirstMemo K) : Prop :=
  ∀ name set, memo.lookup name = some (.found set) → ∀ kind ∈ set, begins (.rule name) kind

namespace Analysis

/-- The first set that is asked for. -/
def answer (analysis : Analysis K) : FirstQuery K → FirstMemo K → KindSet K × FirstMemo K
  | .rule name => analysis.ruleFirst name
  | .clause inner => analysis.first inner
  | .sequence clauses => analysis.sequenceFirst clauses

/-- A search for the first set of the clause ends with the set and leaves the second memo. -/
inductive Searches (analysis : Analysis K) :
    Clause K → FirstMemo K → KindSet K → FirstMemo K → Prop
  | terminal (kind memo) : Searches analysis (.terminal kind) memo (.singleton kind) memo
  | found {name set memo} :
      memo.lookup name = some (.found set) → Searches analysis (.rule name) memo set memo
  | entered {name memo} :
      memo.lookup name = some .entered → Searches analysis (.rule name) memo ∅ memo
  | unknown {name memo} :
      memo.lookup name = none → Production.defines analysis.productions name = false →
      Searches analysis (.rule name) memo ∅ memo
  | enter {name memo set after} :
      memo.lookup name = none → Production.defines analysis.productions name = true →
      Searches analysis
        (.choice ((Production.alternatives analysis.productions name).map .sequence))
        ((name, .entered) :: memo) set after →
      Searches analysis (.rule name) memo set ((name, .found set) :: after)
  | nil (memo) : Searches analysis (.sequence []) memo ∅ memo
  | past {clause rest memo set between others after} :
      Searches analysis clause memo set between → analysis.nullable clause = true →
      Searches analysis (.sequence rest) between others after →
      Searches analysis (.sequence (clause :: rest)) memo (set ∪ others) after
  | halt {clause rest memo set after} :
      Searches analysis clause memo set after → analysis.nullable clause = false →
      Searches analysis (.sequence (clause :: rest)) memo set after
  | none (memo) : Searches analysis (.choice []) memo ∅ memo
  | member {clause rest memo set between others after} :
      Searches analysis clause memo set between →
      Searches analysis (.choice rest) between others after →
      Searches analysis (.choice (clause :: rest)) memo (set ∪ others) after
  | zeroOrMore {body memo set after} :
      Searches analysis body memo set after → Searches analysis (.zeroOrMore body) memo set after
  | oneOrMore {body memo set after} :
      Searches analysis body memo set after → Searches analysis (.oneOrMore body) memo set after
  | optional {body memo set after} :
      Searches analysis body memo set after → Searches analysis (.optional body) memo set after
  | group {body label memo set after} :
      Searches analysis body memo set after → Searches analysis (.group body label) memo set after

/-- The searches that are asked for one after the other all end, with these sets. -/
inductive Answers (analysis : Analysis K) : List (FirstQuery K) → FirstMemo K →
    List (KindSet K) → Prop
  | nil (memo) : Answers analysis [] memo []
  | cons {query rest memo set between sets} :
      Searches analysis query.subject memo set between → Answers analysis rest between sets →
      Answers analysis (query :: rest) memo (set :: sets)

variable {analysis : Analysis K} {clause : Clause K} {memo after : FirstMemo K} {set : KindSet K}

/-! ### Every search ends -/

/-- The number of rules that were not entered yet. -/
def unvisited (analysis : Analysis K) (memo : FirstMemo K) : Nat :=
  ((Production.names analysis.productions).toFinset.filter (memo.lookup · = .none)).card

theorem unvisited_le (analysis : Analysis K) (memo : FirstMemo K) :
    analysis.unvisited memo ≤ (Production.names analysis.productions).length :=
  (Finset.card_filter_le _ _).trans (List.toFinset_card_le _)

/-- What was looked up stays in the memo. -/
theorem Searches.lookup_ne_none (searches : Searches analysis clause memo set after)
    {name : String} (known : memo.lookup name ≠ .none) : after.lookup name ≠ .none := by
  -- Only a rule that is entered changes the memo, and it puts its news in front of the rest.
  induction searches with
  | @enter other memo set after _ _ _ ih =>
    have cons {progress : FirstProgress K} {memo : FirstMemo K} (known : memo.lookup name ≠ .none) :
        List.lookup name ((other, progress) :: memo) ≠ .none := by
      rw [List.lookup_cons]
      split <;> simp [known]
    exact cons (ih (cons known))
  | past _ _ _ ih ih' => exact ih' (ih known)
  | member _ _ ih ih' => exact ih' (ih known)
  | halt _ _ ih => exact ih known
  | zeroOrMore _ ih => exact ih known
  | oneOrMore _ ih => exact ih known
  | optional _ ih => exact ih known
  | group _ ih => exact ih known
  | _ => exact known

theorem Searches.unvisited_le (searches : Searches analysis clause memo set after) :
    analysis.unvisited after ≤ analysis.unvisited memo := by
  refine Finset.card_le_card fun name => ?_
  simp only [Finset.mem_filter]
  rintro ⟨listed, missing⟩
  refine ⟨listed, ?_⟩
  by_contra known
  exact searches.lookup_ne_none known missing

/-- A rule that is entered is one less that was not. -/
theorem unvisited_enter {name : String} (fresh : memo.lookup name = .none)
    (defined : Production.defines analysis.productions name = true) :
    analysis.unvisited ((name, .entered) :: memo) < analysis.unvisited memo := by
  refine Finset.card_lt_card (Finset.ssubset_iff_of_subset (fun other => ?_) |>.mpr ⟨name, ?_, ?_⟩)
  · rw [Finset.mem_filter, Finset.mem_filter]
    rintro ⟨listed, missing⟩
    rw [List.lookup_cons] at missing
    split at missing
    · cases missing
    · exact ⟨listed, missing⟩
  · simpa [fresh] using Production.defines_iff.mp defined
  · simp

/-- The function searches for the clause wherever no more than `room` rules are left to enter. -/
def Follows (analysis : Analysis K) (room : Nat) (clause : Clause K)
    (find : FirstMemo K → KindSet K × FirstMemo K) : Prop :=
  ∀ memo, analysis.unvisited memo ≤ room → Searches analysis clause memo (find memo).1 (find memo).2

section Follows

variable {room : Nat} {visit : String → FirstMemo K → KindSet K × FirstMemo K}

theorem firstOfSequence_follows {items : List (Clause K)}
    (each : ∀ item ∈ items, Follows analysis room item (item.first visit analysis.ruleNullable)) :
    Follows analysis room (.sequence items)
      (Clause.firstOfSequence visit analysis.ruleNullable items) := by
  induction items with
  | nil => exact fun memo _ => .nil memo
  | cons item rest ih =>
    intro memo few
    have here := each item List.mem_cons_self memo few
    simp only [Clause.firstOfSequence]
    split
    next nothing =>
      have later := ih (fun other among => each other (List.mem_cons_of_mem _ among)) _
        (here.unvisited_le.trans few)
      exact .past here nothing later
    next something => exact .halt here (by simpa [nullable] using something)

theorem first_follows (visits : ∀ name, Follows analysis room (.rule name) (visit name))
    (clause : Clause K) :
    Follows analysis room clause (clause.first visit analysis.ruleNullable) := by
  induction clause with
  | terminal kind => exact fun memo _ => .terminal kind memo
  | rule name => exact visits name
  | sequence items ih => exact firstOfSequence_follows ih
  | choice members ih =>
    induction members with
    | nil => exact fun memo _ => .none memo
    | cons member rest rest_ih =>
      intro memo few
      have here := ih member List.mem_cons_self memo few
      have later := rest_ih (fun other among => ih other (List.mem_cons_of_mem _ among)) _
        (here.unvisited_le.trans few)
      exact .member here later
  | zeroOrMore body ih => exact fun memo few => .zeroOrMore (ih memo few)
  | oneOrMore body ih => exact fun memo few => .oneOrMore (ih memo few)
  | optional body ih => exact fun memo few => .optional (ih memo few)
  | group body label ih => exact fun memo few => .group (ih memo few)

theorem firstOfAlternatives_follows {find : List (Clause K) → FirstMemo K → KindSet K × FirstMemo K}
    (each : ∀ clauses, Follows analysis room (.sequence clauses) (find clauses))
    (several : List (List (Clause K))) :
    Follows analysis room (.choice (several.map .sequence)) (firstOfAlternatives find several) := by
  induction several with
  | nil => exact fun memo _ => .none memo
  | cons clauses rest ih =>
    intro memo few
    have here := each clauses memo few
    exact .member here (ih _ (here.unvisited_le.trans few))

/-- A visit is a search as long as its bound covers the rules that are left to enter. -/
theorem visitRule_follows (analysis : Analysis K) (bound : Nat) (name : String) :
    Follows analysis bound (.rule name) (analysis.visitRule bound name) := by
  induction bound generalizing name with
  | zero =>
    intro memo few
    simp only [visitRule]
    split
    next set known => exact .found known
    next unfound =>
      cases known : memo.lookup name with
      | none =>
        -- No rule is left to enter, so there is none of this name.
        refine .unknown known (Bool.eq_false_iff.mpr fun defined => ?_)
        have := unvisited_enter known defined
        omega
      | some progress =>
        cases progress with
        | entered => exact .entered known
        | found set => exact absurd known (unfound set)
  | succ bound ih =>
    intro memo few
    simp only [visitRule]
    split
    next set known => exact .found known
    next entered => exact .entered entered
    next fresh =>
      split
      next defined =>
        -- One rule less is left to enter inside this one, as the smaller bound asks for.
        have room := unvisited_enter fresh defined
        have sequences (clauses : List (Clause K)) :
            Follows analysis bound (.sequence clauses)
              (Clause.firstOfSequence (analysis.visitRule bound) analysis.ruleNullable clauses) :=
          firstOfSequence_follows fun item _ => first_follows ih item
        exact .enter fresh defined (firstOfAlternatives_follows sequences _ _ (by omega))
      next undefined => exact .unknown fresh (by simpa using undefined)

end Follows

/-- The answer to a query is what an unbounded search finds. -/
theorem answer_searches (analysis : Analysis K) (query : FirstQuery K) (memo : FirstMemo K) :
    Searches analysis query.subject memo (analysis.answer query memo).1
      (analysis.answer query memo).2 := by
  have visits (name : String) : Follows analysis _ (.rule name) (analysis.ruleFirst name) :=
    visitRule_follows analysis (Production.names analysis.productions).length name
  have few := analysis.unvisited_le memo
  cases query with
  | rule name => exact visits name memo few
  | clause inner => exact first_follows visits inner memo few
  | sequence clauses =>
    exact firstOfSequence_follows (fun item _ => first_follows visits item) memo few

theorem firstOfEach_answers (analysis : Analysis K) (queries : List (FirstQuery K))
    (memo : FirstMemo K) :
    Answers analysis queries memo (firstOfEach analysis.answer queries memo).1 := by
  induction queries generalizing memo with
  | nil => exact .nil memo
  | cons query rest ih => exact .cons (answer_searches analysis query memo) (ih _)

/-! ### What is found can be begun with -/

variable {productions : List (Production K)}

/-- A search finds only kinds that the clause can begin with, and puts no others into the memo. -/
theorem Searches.sound (searches : Searches (ofProductions productions) clause memo set after)
    (known : FirstMemo.Sound (Begins productions) memo) :
    (∀ kind ∈ set, Begins productions clause kind) ∧
      FirstMemo.Sound (Begins productions) after := by
  induction searches with
  | terminal kind memo => exact ⟨by simp, known⟩
  | found there => exact ⟨known _ _ there, known⟩
  | entered _ =>
    -- A rule that is left out finds no kind, so it finds none that is wrong.
    exact ⟨by simp, known⟩
  | unknown _ _ => exact ⟨by simp, known⟩
  | @enter name memo set after _ _ _ ih =>
    have before : FirstMemo.Sound (Begins productions) ((name, .entered) :: memo) := by
      intro other found there
      rw [List.lookup_cons] at there
      split at there
      · cases there
      · exact known other found there
    obtain ⟨sound, kept⟩ := ih before
    have begins (kind : K) (among : kind ∈ set) : Begins productions (.rule name) kind := by
      have chosen := Clause.Begins.choice_iff.mp (sound kind among)
      simp only [List.mem_map, exists_exists_and_eq_and] at chosen
      exact Clause.Begins.rule_iff.mpr chosen
    -- Behind the visit the memo holds the set for this rule, and the rest as before.
    refine ⟨begins, fun other found there => ?_⟩
    rw [List.lookup_cons] at there
    split at there
    next same =>
      obtain rfl : other = name := by simpa using same
      cases there
      exact begins
    next => exact kept other found there
  | nil memo => exact ⟨by simp, known⟩
  | none memo => exact ⟨by simp, known⟩
  | past _ nothing _ ih ih' =>
    obtain ⟨here, between⟩ := ih known
    obtain ⟨later, kept⟩ := ih' between
    refine ⟨fun kind among => ?_, kept⟩
    rcases KindSet.mem_union.mp among with first | second
    · exact .here (here kind first)
    · exact .behind nothing (later kind second)
  | halt _ _ ih =>
    obtain ⟨here, kept⟩ := ih known
    exact ⟨fun kind among => .here (here kind among), kept⟩
  | member _ _ ih ih' =>
    obtain ⟨here, between⟩ := ih known
    obtain ⟨later, kept⟩ := ih' between
    refine ⟨fun kind among => ?_, kept⟩
    rcases KindSet.mem_union.mp among with first | second
    · exact .choice List.mem_cons_self (here kind first)
    · obtain ⟨other, listed, begins⟩ := Clause.Begins.choice_iff.mp (later kind second)
      exact .choice (List.mem_cons_of_mem _ listed) begins
  | zeroOrMore _ ih => exact (ih known).imp_left fun here _ found => .zeroOrMore (here _ found)
  | oneOrMore _ ih => exact (ih known).imp_left fun here _ found => .oneOrMore (here _ found)
  | optional _ ih => exact (ih known).imp_left fun here _ found => .optional (here _ found)
  | group _ ih => exact (ih known).imp_left fun here _ found => .group (here _ found)

theorem Answers.sound {queries : List (FirstQuery K)} {sets : List (KindSet K)}
    (answers : Answers (ofProductions productions) queries memo sets)
    (known : FirstMemo.Sound (Begins productions) memo) :
    List.Forall₂ (fun query set => ∀ kind ∈ set, Begins productions query.subject kind)
      queries sets := by
  induction answers with
  | nil memo => exact .nil
  | cons searches _ ih =>
    obtain ⟨here, kept⟩ := searches.sound known
    exact .cons here (ih kept)

/-! ### Without left recursion everything is found -/

theorem answer_finds {rank : String → Nat} (ranking : Ranking productions rank)
    (query : FirstQuery K) :
    Finds (Begins productions) rank (Production.names productions).length
      (Begins productions query.subject) ((ofProductions productions).answer query) := by
  cases query with
  | rule name => exact ruleFirst_finds ranking name
  | clause inner => exact first_finds ranking inner
  | sequence clauses => exact sequenceFirst_finds ranking clauses

end Analysis

namespace Grammar

variable {V C : Type} {grammar : Grammar K V C}

theorem Resolved.nodup_ruleNames (resolved : grammar.Resolved) : grammar.ruleNames.Nodup := by
  obtain ⟨policy, pending, productions, succeeded⟩ := resolved
  obtain ⟨rfl, -, -⟩ := resolve_eq_some succeeded
  rw [Resolve.ruleNames_grammar]
  exact nodup_eraseDups _

/-- The sets that are kept with a rule and its alternatives miss no kind that a word begins with. -/
theorem Resolved.mem_first_of_derives (resolved : grammar.Resolved) {rule : Rule K V C}
    (member : rule ∈ grammar.rules) (kind : K) (word : List K) :
    (Clause.Derives grammar.alternatives (.rule rule.name) (kind :: word) → kind ∈ rule.first) ∧
      ∀ alternative ∈ rule.alternatives,
        Clause.Derives grammar.alternatives (.sequence alternative.clauses) (kind :: word) →
          kind ∈ alternative.first := by
  have coherent := resolved.coherent
  have found := rule?_of_mem resolved.nodup_ruleNames member
  constructor
  · intro derives
    have begins := Clause.begins_of_derives_cons coherent.ruleMayBeEmpty derives rfl
    have known : kind ∈ grammar.ruleFirst rule.name := coherent.mem_firstOf.mpr begins
    rwa [Grammar.ruleFirst, found] at known
  · intro alternative listed derives
    have begins := Clause.begins_of_derives_cons coherent.ruleMayBeEmpty derives rfl
    exact (coherent.mem_alternative found listed).mpr (coherent.mem_firstOf.mpr begins)

end Grammar

/-- Queries for first sets that are asked one after the other are all answered, and the answers
hold only kinds that can begin what was asked for. Without left recursion they hold all of them,
whatever was asked before; so in a grammar that was resolved no sentence of a rule or alternative
begins with a kind that is missing from the set kept with it. -/
theorem Analysis.firstQueries_exact (productions : List (Production K))
    (queries : List (FirstQuery K)) (V C : Type) :
    let analysis := ofProductions productions
    let answers := (firstOfEach analysis.answer queries []).1
    analysis.Answers queries [] answers ∧
      (∀ clause, analysis.nullable clause = true ↔
        Clause.Derives (Production.alternatives productions) clause []) ∧
      List.Forall₂ (fun query set => ∀ kind ∈ set, Begins productions query.subject kind)
        queries answers ∧
      ((∀ name, ¬ LeftRecursive (Production.alternatives productions) name) →
        List.Forall₂ (fun query set => ∀ kind, kind ∈ set ↔ Begins productions query.subject kind)
          queries answers) ∧
      ∀ grammar : Grammar K V C, grammar.Resolved → ∀ rule ∈ grammar.rules, ∀ kind word,
        (Clause.Derives grammar.alternatives (.rule rule.name) (kind :: word) →
          kind ∈ rule.first) ∧
        ∀ alternative ∈ rule.alternatives,
          Clause.Derives grammar.alternatives (.sequence alternative.clauses) (kind :: word) →
            kind ∈ alternative.first := by
  intro analysis answers
  have ended := firstOfEach_answers analysis queries []
  have nothing : FirstMemo.Sound (Begins productions) [] := by
    intro name set known
    cases known
  refine ⟨ended, nullable_iff_derives_nil productions, ended.sound nothing, ?_, ?_⟩
  · intro acyclic
    obtain ⟨rank, ranking⟩ := exists_ranking ((leftRecursion_eq_nil_iff productions).mpr acyclic)
    exact (firstOfEach_finds queries (answer_finds ranking) FirstMemo.exact_nil
      FirstMemo.above_nil).1
  · intro grammar resolved rule member
    exact resolved.mem_first_of_derives member

/-- What begins a bracketed list is found, also where its items were asked for before. -/
theorem Analysis.firstQueries_exact_list :
    let productions := Resolve.bare Sample.productions
    let queries : List (FirstQuery Sample.Mark) :=
      [.rule "item", .clause Sample.others, .sequence [.rule "item", Sample.others]]
    (∀ name, ¬ LeftRecursive (Production.alternatives productions) name) ∧
      List.Forall₂ (fun query set => ∀ kind, kind ∈ set ↔ Begins productions query.subject kind)
        queries (firstOfEach (ofProductions productions).answer queries []).1 ∧
      Sample.grammar.Resolved ∧ ∀ rule ∈ Sample.grammar.rules, ∀ kind word,
        Clause.Derives Sample.grammar.alternatives (.rule rule.name) (kind :: word) →
          kind ∈ rule.first := by
  intro productions queries
  have acyclic : ∀ name, ¬ LeftRecursive (Production.alternatives productions) name :=
    (leftRecursion_eq_nil_iff productions).mp (by decide)
  obtain ⟨-, -, -, complete, first⟩ := firstQueries_exact productions queries Nat Unit
  refine ⟨acyclic, complete acyclic, Sample.resolved, fun rule member kind word => ?_⟩
  exact (first Sample.grammar Sample.resolved rule member kind word).1

/-- With left recursion the answer to the second query depends on the first one. -/
example :
    let analysis := Analysis.ofProductions [⟨"a", [.rule "b"]⟩, ⟨"a", [.terminal Sample.Mark.word]⟩,
      ⟨"b", [.rule "a"]⟩]
    (Analysis.firstOfEach analysis.answer [.rule "a", .rule "b"] []).1 = [.singleton .word, ∅] ∧
      (Analysis.firstOfEach analysis.answer [.rule "b", .rule "a"] []).1 =
        [.singleton .word, .singleton .word] := by decide

end Lookahead
