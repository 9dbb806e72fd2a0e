import Lookahead.Proofs.Grammar.Language

/-!
# What follows a clause

While a word of the start rule is derived from left to right, some clause is to be derived next
and other clauses stand behind it. The kinds that those can begin with follow the clause. A
grammar is predictive if the next token tells alternatives and members of choices apart, and if it
tells whether to go on or to stop wherever a clause may be left out or a loop may be left: no kind
can begin the clause and follow it too.

What follows can be given as a table, of which it is enough to look at each entry by itself.

Main statement: `Grammar.predictive_of_table`.
-/

namespace Lookahead

namespace Grammar

variable {K V C : Type} [TokenKind K] {grammar : Grammar K V C} {start : String}

/-- On the way to a word of the rule `start` the clause can come next, with the clauses `rest`
behind it. Behind a round of a loop the loop comes again. -/
inductive Pending (grammar : Grammar K V C) (start : String) : Clause K → List (Clause K) → Prop
  | start : Pending grammar start (.rule start) []
  | rule {name clauses rest} :
      Pending grammar start (.rule name) rest → clauses ∈ grammar.alternatives name →
      Pending grammar start (.sequence clauses) rest
  | head {clause others rest} :
      Pending grammar start (.sequence (clause :: others)) rest →
      Pending grammar start clause (others ++ rest)
  | tail {clause others rest} :
      Pending grammar start (.sequence (clause :: others)) rest →
      Pending grammar start (.sequence others) rest
  | choice {members member rest} :
      Pending grammar start (.choice members) rest → member ∈ members →
      Pending grammar start member rest
  | zeroOrMore {body rest} :
      Pending grammar start (.zeroOrMore body) rest →
      Pending grammar start body (.zeroOrMore body :: rest)
  | oneOrMore {body rest} :
      Pending grammar start (.oneOrMore body) rest →
      Pending grammar start body (.zeroOrMore body :: rest)
  | optional {body rest} :
      Pending grammar start (.optional body) rest → Pending grammar start body rest
  | group {body label rest} :
      Pending grammar start (.group body label) rest → Pending grammar start body rest

/-- The kind can come right behind the clause on the way to a word of the rule `start`. -/
def Follows (grammar : Grammar K V C) (start : String) (clause : Clause K) (kind : K) : Prop :=
  ∃ rest, Pending grammar start clause rest ∧ kind ∈ grammar.firstOf (.sequence rest)

/-- Whether it has to be decided at the clause if it is left out or, for a loop, if it is left. -/
def decides (grammar : Grammar K V C) : Clause K → Bool
  | .rule name => grammar.ruleMayBeEmpty name
  | .choice members => grammar.nullable (.choice members)
  | .zeroOrMore _ => true
  | .oneOrMore _ => true
  | .optional _ => true
  | _ => false

/-- No two of the clauses can begin with the same kind. -/
def Apart (grammar : Grammar K V C) (clauses : List (Clause K)) : Prop :=
  clauses.Pairwise fun earlier later => grammar.firstOf earlier ∩ grammar.firstOf later = ∅

instance (clauses : List (Clause K)) : Decidable (grammar.Apart clauses) :=
  inferInstanceAs (Decidable (clauses.Pairwise _))

/-- From the rule `start` the next token decides everything that has to be decided. -/
structure Predictive (grammar : Grammar K V C) (start : String) : Prop where
  alternatives {name : String} :
    name ∈ grammar.ruleNames → grammar.Apart ((grammar.alternatives name).map .sequence)
  choices {name : String} {clauses members : List (Clause K)} :
    clauses ∈ grammar.alternatives name → members ∈ Clause.choicesAll clauses →
      grammar.Apart members
  decisions {clause : Clause K} {kind : K} :
    grammar.decides clause = true → kind ∈ grammar.firstOf clause →
      ¬ Follows grammar start clause kind

/-! ### First sets of sequences -/

theorem firstOf_sequence_cons (clause : Clause K) (others : List (Clause K)) (kind : K) :
    kind ∈ grammar.firstOf (.sequence (clause :: others)) ↔
      kind ∈ grammar.firstOf clause ∨
        grammar.nullable clause = true ∧ kind ∈ grammar.firstOf (.sequence others) := by
  simp only [firstOf, nullable, Clause.firstKinds, Clause.firstKindsSequence]
  split <;> simp_all

theorem firstOf_sequence_append (clauses rest : List (Clause K)) (kind : K) :
    kind ∈ grammar.firstOf (.sequence (clauses ++ rest)) ↔
      kind ∈ grammar.firstOf (.sequence clauses) ∨
        grammar.nullable (.sequence clauses) = true ∧
          kind ∈ grammar.firstOf (.sequence rest) := by
  induction clauses with
  | nil => simp [firstOf, nullable, Clause.firstKinds, Clause.firstKindsSequence, Clause.nullable,
      Clause.nullableAll]
  | cons clause others ih =>
    have both : grammar.nullable (.sequence (clause :: others)) =
        (grammar.nullable clause && grammar.nullable (.sequence others)) := rfl
    rw [List.cons_append, firstOf_sequence_cons, firstOf_sequence_cons, ih, both, Bool.and_eq_true]
    tauto

/-! ### Tables of what follows -/

/-- What comes next behind a clause that is followed by some kinds: the clauses right inside it,
each with the kinds that follow it there. -/
def inside (grammar : Grammar K V C) (clause : Clause K) (follow : KindSet K) :
    List (Clause K × KindSet K) :=
  match clause with
  | .terminal _ => []
  | .rule name => (grammar.alternatives name).map fun clauses => (.sequence clauses, follow)
  | .sequence [] => []
  | .sequence (clause :: others) =>
    let behind := grammar.firstOf (.sequence others)
    [(clause, if grammar.nullable (.sequence others) then behind ∪ follow else behind),
      (.sequence others, follow)]
  | .choice members => members.map (·, follow)
  | .zeroOrMore body => [(body, grammar.firstOf body ∪ follow)]
  | .oneOrMore body => [(body, grammar.firstOf body ∪ follow)]
  | .optional body => [(body, follow)]
  | .group body _ => [(body, follow)]

/-- The table has the clause, with these kinds at least behind it. -/
def Covers (table : List (Clause K × KindSet K)) (entry : Clause K × KindSet K) : Prop :=
  ∃ other ∈ table, other.1 = entry.1 ∧ ∀ kind ∈ entry.2.toList, kind ∈ other.2

instance (table : List (Clause K × KindSet K)) (entry : Clause K × KindSet K) :
    Decidable (Covers table entry) :=
  inferInstanceAs (Decidable (∃ _ ∈ table, _))

/-- The table has the start rule, and with every clause it has what is inside. -/
structure Tabled (grammar : Grammar K V C) (start : String) (table : List (Clause K × KindSet K)) :
    Prop where
  start : Covers table (.rule start, ∅)
  inside : ∀ entry ∈ table, ∀ inner ∈ grammar.inside entry.1 entry.2, Covers table inner

variable {table : List (Clause K × KindSet K)}

/-- A clause inside one that the table has is in the table, with what follows it there. -/
theorem Tabled.of_inside (tabled : grammar.Tabled start table) {clause inner : Clause K}
    {follow kinds : KindSet K} (listed : (clause, follow) ∈ table)
    (among : (inner, kinds) ∈ grammar.inside clause follow) {rest : List (Clause K)}
    (low : ∀ kind ∈ grammar.firstOf (.sequence rest), kind ∈ kinds) :
    ∃ wider, (inner, wider) ∈ table ∧ ∀ kind ∈ grammar.firstOf (.sequence rest), kind ∈ wider := by
  obtain ⟨⟨_, wider⟩, covered, rfl, larger⟩ := tabled.inside _ listed _ among
  exact ⟨wider, covered, fun kind member => larger kind (low kind member)⟩

/-- Whatever comes next is in the table, with all that follows it. -/
theorem Pending.tabled (tabled : grammar.Tabled start table) {clause : Clause K}
    {rest : List (Clause K)} (pending : Pending grammar start clause rest) :
    ∃ follow, (clause, follow) ∈ table ∧
      ∀ kind ∈ grammar.firstOf (.sequence rest), kind ∈ follow := by
  induction pending with
  | start =>
    obtain ⟨⟨_, follow⟩, listed, rfl, -⟩ := tabled.start
    refine ⟨follow, listed, fun kind member => ?_⟩
    cases member
  | @rule name clauses rest _ member ih =>
    obtain ⟨follow, listed, low⟩ := ih
    exact tabled.of_inside listed (List.mem_map_of_mem member) low
  | @head clause others rest _ ih =>
    obtain ⟨follow, listed, low⟩ := ih
    refine tabled.of_inside listed List.mem_cons_self fun kind member => ?_
    rcases (firstOf_sequence_append others rest kind).mp member with here | ⟨nothing, later⟩
    · split <;> simp [here]
    · simp [nothing, low kind later]
  | @tail clause others rest _ ih =>
    obtain ⟨follow, listed, low⟩ := ih
    exact tabled.of_inside listed (List.mem_cons_of_mem _ List.mem_cons_self) low
  | choice _ among ih =>
    obtain ⟨follow, listed, low⟩ := ih
    exact tabled.of_inside listed (List.mem_map_of_mem among) low
  | zeroOrMore _ ih | oneOrMore _ ih =>
    obtain ⟨follow, listed, low⟩ := ih
    refine tabled.of_inside listed List.mem_cons_self fun kind member => ?_
    rw [KindSet.mem_union]
    exact ((firstOf_sequence_cons _ _ _).mp member).imp_right fun behind => low kind behind.2
  | optional _ ih | group _ ih =>
    obtain ⟨follow, listed, low⟩ := ih
    exact tabled.of_inside listed List.mem_cons_self low

/-- A grammar is predictive from `start` if a table of what follows shows no conflict. -/
theorem predictive_of_table (tabled : grammar.Tabled start table)
    (alternatives : ∀ name ∈ grammar.ruleNames,
      grammar.Apart ((grammar.alternatives name).map .sequence))
    (choices : ∀ name ∈ grammar.ruleNames, ∀ clauses ∈ grammar.alternatives name,
      ∀ members ∈ Clause.choicesAll clauses, grammar.Apart members)
    (decisions : ∀ entry ∈ table, grammar.decides entry.1 = true →
      grammar.firstOf entry.1 ∩ entry.2 = ∅) : grammar.Predictive start where
  alternatives defined := alternatives _ defined
  choices {name} _ _ member among := by
    obtain ⟨rule, found, -⟩ := exists_rule_of_mem_alternatives member
    exact choices name (mem_ruleNames.mpr ⟨rule, found⟩) _ member _ among
  decisions {clause kind} decides begins := by
    rintro ⟨rest, pending, follows⟩
    obtain ⟨follow, listed, low⟩ := pending.tabled tabled
    have both : kind ∈ grammar.firstOf clause ∩ follow :=
      KindSet.mem_inter.mpr ⟨begins, low kind follows⟩
    rw [decisions _ listed decides] at both
    exact KindSet.not_mem_empty both

end Grammar

namespace Sample

/-- What follows the clauses of bracketed lists. -/
def table : List (Clause Mark × KindSet Mark) :=
  let behindList : KindSet Mark := .singleton .closing
  let behindItem : KindSet Mark := behindList.insert .comma
  let anything : KindSet Mark := (behindItem.insert .word).insert .opening
  [(.rule "list", behindList), (.sequence [.rule "item", others], behindList),
    (.sequence [others], behindList), (others, behindList),
    (.group (.sequence [.terminal .comma, .rule "item"]) none, behindItem),
    (.sequence [.terminal .comma, .rule "item"], behindItem), (.terminal .comma, anything),
    (.sequence [.rule "item"], behindItem), (.rule "item", behindItem),
    (.sequence [.terminal .word], behindItem), (.terminal .word, behindItem),
    (.sequence [.terminal .opening, .rule "list", .terminal .closing], behindItem),
    (.terminal .opening, anything), (.sequence [.rule "list", .terminal .closing], behindItem),
    (.sequence [.terminal .closing], behindItem), (.terminal .closing, behindItem),
    (.sequence [], behindItem)]

theorem tabled : grammar.Tabled "list" table where
  start := by decide
  inside := by decide

theorem predictive : grammar.Predictive "list" :=
  Grammar.predictive_of_table tabled (by decide) (by decide) (by decide)

end Sample

end Lookahead
