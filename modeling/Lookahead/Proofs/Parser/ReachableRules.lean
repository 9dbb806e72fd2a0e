import Lookahead.Proofs.Grammar.Simulation
import Lookahead.Proofs.Parser.Termination

/-!
# Rules that can be reached

What a parse does is decided by the rules that are reached from its start rule through references,
and by the alternatives of each of them. Neither the order in which the rules were declared nor
rules beside them have a part in it: the lookahead of clauses that only mention reachable rules
comes from the derivations of these clauses, and the matcher meets no other clauses.

Main statement: `Grammar.parseTokens_eq_of_agreesFrom`.
-/

namespace Lookahead

open Relation

/-- A step by alternatives is one by other alternatives that are the same for the rules of the
clause. -/
theorem Clause.Expands.congr {K : Type} {alternatives others : String → List (List (Clause K))}
    {clause : Clause K} {expansion : List (Clause K)}
    (expands : clause.Expands alternatives expansion)
    (same : ∀ name ∈ clause.ruleNames, alternatives name = others name) :
    clause.Expands others expansion := by
  cases expands with
  | rule member =>
    rw [same _ List.mem_cons_self] at member
    exact .rule member
  | sequence => exact .sequence _
  | choice among => exact .choice among
  | stop body => exact .stop body
  | more body => exact .more body
  | oneOrMore body => exact .oneOrMore body
  | absent body => exact .absent body
  | present body => exact .present body
  | group body label => exact .group body label

namespace Grammar

variable {K V C : Type} [TokenKind K] {grammar grammar' : Grammar K V C} {start : String}

/-- An alternative of the rule `name` mentions the rule `inner`. -/
def Mentions (grammar : Grammar K V C) (name inner : String) : Prop :=
  ∃ clauses ∈ grammar.alternatives name, inner ∈ Clause.ruleNamesAll clauses

/-- The name is reached from `start` through references. -/
def Reachable (grammar : Grammar K V C) (start : String) : String → Prop :=
  ReflTransGen grammar.Mentions start

/-- What was declared of a rule: the clauses and the actions of its alternatives in their order. -/
def declared (grammar : Grammar K V C) (name : String) :
    Option (List (List (Clause K) × Action K V C)) :=
  (grammar.rule? name).map fun rule =>
    rule.alternatives.map fun alternative => (alternative.clauses, alternative.action)

/-- Of every rule that is reached from `start` the same was declared. -/
def AgreesFrom (start : String) (grammar grammar' : Grammar K V C) : Prop :=
  ∀ name, grammar.Reachable start name → grammar.declared name = grammar'.declared name

/-- The clause only mentions rules that are reached from `start`. -/
def Within (grammar : Grammar K V C) (start : String) (clause : Clause K) : Prop :=
  ∀ name ∈ clause.ruleNames, grammar.Reachable start name

theorem alternatives_eq_of_declared {name : String}
    (same : grammar.declared name = grammar'.declared name) :
    grammar.alternatives name = grammar'.alternatives name := by
  have clauses (grammar : Grammar K V C) :
      grammar.alternatives name = ((grammar.declared name).getD []).map Prod.fst := by
    unfold alternatives declared
    cases grammar.rule? name <;> simp
  rw [clauses, clauses, same]

/-! ### Clauses within reach -/

theorem within_rule {name : String} :
    grammar.Within start (.rule name) ↔ grammar.Reachable start name := by
  simp [Within, Clause.ruleNames]

theorem within_sequence {items : List (Clause K)} :
    grammar.Within start (.sequence items) ↔ ∀ item ∈ items, grammar.Within start item := by
  simp only [Within, Clause.ruleNames, Clause.mem_ruleNamesAll]
  constructor
  · intro all item member name mentioned
    exact all name ⟨item, member, mentioned⟩
  · rintro all name ⟨item, member, mentioned⟩
    exact all item member name mentioned

theorem within_choice {members : List (Clause K)} :
    grammar.Within start (.choice members) ↔ ∀ member ∈ members, grammar.Within start member :=
  within_sequence

theorem within_of_mem_alternatives {name : String} {clauses : List (Clause K)}
    (reached : grammar.Reachable start name) (member : clauses ∈ grammar.alternatives name) :
    grammar.Within start (.sequence clauses) :=
  fun _ mentioned => reached.tail ⟨clauses, member, mentioned⟩

/-- No step of a derivation leads out of reach. -/
theorem Within.expands {clause : Clause K} {expansion : List (Clause K)}
    (within : grammar.Within start clause)
    (expands : clause.Expands grammar.alternatives expansion) :
    ∀ inner ∈ expansion, grammar.Within start inner := by
  cases expands with
  | rule member =>
    exact within_sequence.mp (within_of_mem_alternatives (within_rule.mp within) member)
  | sequence items => exact within_sequence.mp within
  | choice among => exact List.forall_mem_singleton.mpr (within_choice.mp within _ among)
  | stop body => simp
  | absent body => simp
  | more body => exact List.forall_mem_cons.mpr ⟨within, List.forall_mem_singleton.mpr within⟩
  | oneOrMore body => exact List.forall_mem_cons.mpr ⟨within, List.forall_mem_singleton.mpr within⟩
  | present body => exact List.forall_mem_singleton.mpr within
  | group body label => exact List.forall_mem_singleton.mpr within

/-! ### Lookahead within reach -/

theorem AgreesFrom.alternatives_eq (agrees : AgreesFrom start grammar grammar') {name : String}
    (reached : grammar.Reachable start name) :
    grammar.alternatives name = grammar'.alternatives name :=
  alternatives_eq_of_declared (agrees name reached)

/-- Clauses within reach derive the same by both grammars. -/
theorem AgreesFrom.bisimulation (agrees : AgreesFrom start grammar grammar') :
    Bisimulation grammar grammar' fun clause clause' =>
      clause = clause' ∧ grammar.Within start clause := by
  have same {clause : Clause K} (within : grammar.Within start clause) :
      ∀ name ∈ clause.ruleNames, grammar.alternatives name = grammar'.alternatives name :=
    fun name mentioned => agrees.alternatives_eq (within name mentioned)
  have itself {clause : Clause K} {expansion : List (Clause K)}
      (within : grammar.Within start clause)
      (expands : clause.Expands grammar.alternatives expansion) :
      List.Forall₂ (fun clause clause' => clause = clause' ∧ grammar.Within start clause)
        expansion expansion :=
    List.forall₂_same.mpr fun inner member => ⟨rfl, within.expands expands inner member⟩
  constructor
  · constructor
    · rintro kind _ ⟨rfl, -⟩
      rfl
    · rintro clause _ expansion ⟨rfl, within⟩ expands
      exact ⟨expansion, expands.congr (same within), itself within expands⟩
  · constructor
    · rintro kind _ ⟨rfl, -⟩
      rfl
    · rintro clause _ expansion ⟨rfl, within⟩ expands
      -- A step by the second grammar is one by the first grammar, and so it stays within reach.
      have expands' := expands.congr fun name mentioned => (same within name mentioned).symm
      refine ⟨expansion, expands', (itself within expands').imp fun inner inner' => ?_⟩
      rintro ⟨rfl, inside⟩
      exact ⟨rfl, inside⟩

/-- An alternative with the lookahead of its clauses. -/
def withLookahead (grammar : Grammar K V C) (declared : List (Clause K) × Action K V C) :
    Alternative K V C :=
  ⟨declared.1, grammar.firstOf (.sequence declared.1), grammar.nullable (.sequence declared.1),
    declared.2⟩

/-- What is kept with a rule comes from what was declared of it. -/
theorem Coherent.rule?_eq (coherent : grammar.Coherent) (name : String) :
    grammar.rule? name = (grammar.declared name).map fun alternatives =>
      ⟨name, alternatives.map grammar.withLookahead, grammar.firstOf (.rule name),
        grammar.nullable (.rule name)⟩ := by
  unfold declared
  cases found : grammar.rule? name with
  | none => rfl
  | some rule =>
    obtain ⟨-, rfl⟩ := rule?_eq_some found
    have first : grammar.firstOf (.rule rule.name) = rule.first := by
      rw [firstOf, Clause.firstKinds, ruleFirst, found]
    have empty : grammar.nullable (.rule rule.name) = rule.mayBeEmpty := by
      rw [nullable, Clause.nullable, Grammar.ruleMayBeEmpty, found]
    have each : rule.alternatives.map
        (fun alternative => grammar.withLookahead (alternative.clauses, alternative.action)) =
          rule.alternatives := by
      refine (List.map_congr_left fun alternative member => ?_).trans (List.map_id _)
      rw [withLookahead, ← coherent.alternative_empty found member,
        ← KindSet.ext fun _ => coherent.mem_alternative found member]
      rfl
    rw [Option.map_some, Option.map_some, List.map_map, Function.comp_def, first, empty, each]

section Agreement

variable (agrees : AgreesFrom start grammar grammar') (resolved : grammar.Resolved)
  (resolved' : grammar'.Resolved)

include agrees resolved resolved'

theorem AgreesFrom.nullable_eq {clause : Clause K} (within : grammar.Within start clause) :
    grammar.nullable clause = grammar'.nullable clause :=
  agrees.bisimulation.nullable_eq resolved resolved' ⟨rfl, within⟩

theorem AgreesFrom.firstOf_eq {clause : Clause K} (within : grammar.Within start clause) :
    grammar.firstOf clause = grammar'.firstOf clause :=
  agrees.bisimulation.firstOf_eq resolved resolved' ⟨rfl, within⟩

theorem AgreesFrom.starts_eq {clause : Clause K} (within : grammar.Within start clause)
    (next : Option K) : grammar.starts clause next = grammar'.starts clause next :=
  agrees.bisimulation.starts_eq resolved resolved' ⟨rfl, within⟩ next

/-- A rule that is reached is the same rule in both grammars, with what is kept for lookahead. -/
theorem AgreesFrom.rule?_eq {name : String} (reached : grammar.Reachable start name) :
    grammar.rule? name = grammar'.rule? name := by
  have own := within_rule.mpr reached
  rw [resolved.coherent.rule?_eq, resolved'.coherent.rule?_eq, ← agrees name reached,
    agrees.nullable_eq resolved resolved' own, agrees.firstOf_eq resolved resolved' own]
  -- What is kept with an alternative comes from its clauses, which are within reach.
  refine Option.map_congr fun alternatives known => ?_
  congr 1
  refine List.map_congr_left fun entry member => ?_
  have listed : entry.1 ∈ grammar.alternatives name := by
    obtain ⟨rule, found, rfl⟩ := Option.map_eq_some_iff.mp known
    obtain ⟨alternative, among, rfl⟩ := List.mem_map.mp member
    rw [alternatives_of_some found]
    exact List.mem_map_of_mem among
  have within := within_of_mem_alternatives reached listed
  rw [withLookahead, withLookahead, agrees.nullable_eq resolved resolved' within,
    agrees.firstOf_eq resolved resolved' within]

theorem AgreesFrom.pick_eq {members : List (Clause K)}
    (within : ∀ member ∈ members, grammar.Within start member) (next : Option K) :
    grammar.pick members next = grammar'.pick members next := by
  have begins : members.find? (grammar.starts · next) = members.find? (grammar'.starts · next) :=
    List.find?_congr fun member among => agrees.starts_eq resolved resolved' (within member among) _
  have nothing : members.find? grammar.nullable = members.find? grammar'.nullable :=
    List.find?_congr fun member among => agrees.nullable_eq resolved resolved' (within member among)
  rw [pick, pick, begins, nothing]

/-! ### Matching within reach -/

variable {visit visit' : String → Matcher K C (Tree K V)}

omit agrees resolved resolved' in
theorem matchSequence_congr {caller : String} {items : List (Clause K)}
    (each : ∀ item ∈ items,
      grammar.matchClause visit caller item = grammar'.matchClause visit' caller item) :
    grammar.matchSequence visit caller items = grammar'.matchSequence visit' caller items := by
  induction items with
  | nil =>
    funext tokens context
    rfl
  | cons item items ih =>
    obtain ⟨first, others⟩ := List.forall_mem_cons.mp each
    funext tokens context
    rw [matchSequence, matchSequence, first, ih others]

/-- Clauses within reach are matched alike, if the rules that are reached are. -/
theorem AgreesFrom.matchClause_eq
    (visits : ∀ name, grammar.Reachable start name → visit name = visit' name)
    {clause : Clause K} (within : grammar.Within start clause) (caller : String) :
    grammar.matchClause visit caller clause = grammar'.matchClause visit' caller clause := by
  induction clause with
  | terminal kind =>
    funext tokens context
    cases tokens <;> rfl
  | rule name =>
    funext tokens context
    rw [matchClause, matchClause, visits name (within_rule.mp within)]
  | sequence items ih =>
    have same := matchSequence_congr fun item member =>
      ih item member (within_sequence.mp within item member)
    funext tokens context
    rw [matchClause, matchClause, same]
  | choice members ih =>
    have inside := within_choice.mp within
    funext tokens context
    rw [matchClause_choice, matchClause_choice, ← agrees.pick_eq resolved resolved' inside,
      ← agrees.firstOf_eq resolved resolved' within]
    cases picked : grammar.pick members (nextKind tokens) with
    | none => rfl
    | some member =>
      have among := mem_of_pick picked
      exact congrFun (congrFun (ih member among (inside member among)) tokens) context
  | zeroOrMore body ih =>
    have starts : grammar.starts body = grammar'.starts body :=
      funext (agrees.starts_eq resolved resolved' within)
    funext tokens context
    rw [matchClause, matchClause, ih within, starts]
  | oneOrMore body ih =>
    have starts : grammar.starts body = grammar'.starts body :=
      funext (agrees.starts_eq resolved resolved' within)
    have nothing : grammar.nullable body = grammar'.nullable body :=
      agrees.nullable_eq resolved resolved' within
    have first : grammar.firstOf body = grammar'.firstOf body :=
      agrees.firstOf_eq resolved resolved' within
    funext tokens context
    rw [matchClause, matchClause, ih within, starts, nothing, first]
  | optional body ih =>
    have starts : grammar.starts body = grammar'.starts body :=
      funext (agrees.starts_eq resolved resolved' within)
    funext tokens context
    rw [matchClause, matchClause, ih within, starts]
  | group body label ih =>
    funext tokens context
    rw [matchClause, matchClause, ih within]

theorem AgreesFrom.matchRule_eq (bound : Nat) {name : String} {rule : Rule K V C}
    (reached : grammar.Reachable start name) (found : grammar.rule? name = some rule) :
    grammar.matchRule bound rule = grammar'.matchRule bound rule := by
  induction bound generalizing name rule with
  | zero => rfl
  | succ bound ih =>
    -- One level down only rules are visited that are reached as well.
    have visits : ∀ inner, grammar.Reachable start inner →
        grammar.visitor bound inner = grammar'.visitor bound inner := by
      intro inner inside
      rw [visitor, visitor, ← agrees.rule?_eq resolved resolved' inside]
      cases known : grammar.rule? inner with
      | none => rfl
      | some next => exact ih inside known
    funext tokens context
    rw [matchRule_succ, matchRule_succ]
    cases chosen : rule.choose (nextKind tokens) with
    | none => rfl
    | some entry =>
      have within := within_sequence.mp
        (within_of_mem_alternatives reached (mem_alternatives_of_choose found chosen))
      have same := matchSequence_congr fun item member =>
        agrees.matchClause_eq resolved resolved' visits (within item member) rule.name
      dsimp only
      rw [same]

end Agreement

/-- Parsing depends only on the rules that are reached from the start rule: grammars in which these
were declared with the same alternatives give the same results and the same contexts. -/
theorem parseTokens_eq_of_agreesFrom (resolved : grammar.Resolved) (resolved' : grammar'.Resolved)
    (agrees : AgreesFrom start grammar grammar') (tokens : List (Token K)) (context : C) :
    grammar.parseTokens tokens start context = grammar'.parseTokens tokens start context := by
  have same := agrees.rule?_eq resolved resolved' .refl
  cases found : grammar.rule? start with
  | none => rw [parseTokens_of_none found, parseTokens_of_none (same ▸ found)]
  | some rule =>
    have found' : grammar'.rule? start = some rule := same ▸ found
    rw [parseTokens_of_some found, parseTokens_of_some found']
    -- The bounds come from all rules, so they differ. Under one that covers both none is felt.
    let call : Call K C := ⟨start, .rule start, tokens, context⟩
    let bound := max (grammar.nestingBound tokens) (grammar'.nestingBound tokens)
    have ample : grammar.run (grammar.nestingBound tokens) call = grammar.run bound call :=
      run_congr (run_finished resolved.coherent call le_rfl)
        (run_finished resolved.coherent call (le_max_left _ _))
    have ample' : grammar'.run (grammar'.nestingBound tokens) call = grammar'.run bound call :=
      run_congr (run_finished resolved'.coherent call le_rfl)
        (run_finished resolved'.coherent call (le_max_right _ _))
    have alike : grammar.run bound call = grammar'.run bound call := by
      simp only [run, call, matchClause, visitor_of_some found, visitor_of_some found']
      rw [agrees.matchRule_eq resolved resolved' bound .refl found]
    rw [ample, ample', alike]

/-- Only rules are reached from a rule. -/
theorem Reachable.defined (coherent : grammar.Coherent) (known : start ∈ grammar.ruleNames)
    {name : String} (reached : grammar.Reachable start name) : name ∈ grammar.ruleNames := by
  induction reached with
  | refl => exact known
  | tail _ mentions _ =>
    obtain ⟨clauses, member, mentioned⟩ := mentions
    exact coherent.defined member mentioned

end Grammar

namespace Sample

/-- The productions of bracketed lists in another order, with a rule among them that no list
mentions. -/
def shuffled : List (SemanticProduction Mark Nat Unit) :=
  [⟨⟨"item", [.terminal .word]⟩, fun _ _ => (1, ())⟩,
    ⟨⟨"line", [.rule "list", .optional (.terminal .comma)]⟩, fun _ _ => (2, ())⟩,
    ⟨⟨"item", [.terminal .opening, .rule "list", .terminal .closing]⟩, fun _ _ => (1, ())⟩,
    ⟨⟨"list", [.rule "item", others]⟩, fun children _ => (children.length, ())⟩,
    ⟨⟨"item", []⟩, fun _ _ => (0, ())⟩]

end Sample

/-- Lists are parsed alike whatever else is declared. -/
theorem Grammar.parseTokens_eq_of_agreesFrom_list :
    Sample.grammar.Resolved ∧ (Resolve.grammar Sample.shuffled).Resolved ∧
      AgreesFrom "list" Sample.grammar (Resolve.grammar Sample.shuffled) ∧
      ∀ tokens, Sample.grammar.parseTokens tokens "list" () =
        (Resolve.grammar Sample.shuffled).parseTokens tokens "list" () := by
  have resolved' : (Resolve.grammar Sample.shuffled).Resolved :=
    ⟨.warn, [], Sample.shuffled, rfl⟩
  have agrees : AgreesFrom "list" Sample.grammar (Resolve.grammar Sample.shuffled) := by
    intro name reached
    have listed : name ∈ ["list", "item"] := reached.defined Sample.resolved.coherent (by decide)
    simp only [List.mem_cons, List.not_mem_nil, or_false] at listed
    rcases listed with rfl | rfl <;> rfl
  exact ⟨Sample.resolved, resolved', agrees, fun tokens =>
    parseTokens_eq_of_agreesFrom Sample.resolved resolved' agrees tokens ()⟩

end Lookahead
