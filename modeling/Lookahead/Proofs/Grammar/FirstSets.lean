import Lookahead.Proofs.Grammar.LeftRecursion

/-!
# The first sets that the search finds

What a match of a clause can begin with is a least relation. The search for first sets follows it
depth first and leaves a rule out where it meets the rule again on its own way down. With ranks
that fall on the way down this never happens: whatever is being visited has a higher rank than
what is asked for. So every answer is exact, and so is everything that the memo holds, whatever
was asked before.

Main statements: `Analysis.ruleFirst_finds` and `Analysis.sequenceFirst_finds`.
-/

namespace Lookahead

/-- A match of the clause can begin with the kind, where `alternatives` tells what the rules
stand for and `empty` which of them can match nothing. -/
inductive Clause.Begins {K : Type} (alternatives : String → List (List (Clause K)))
    (empty : String → Bool) : Clause K → K → Prop
  | terminal (kind : K) : Begins alternatives empty (.terminal kind) kind
  | rule {name clauses kind} :
      clauses ∈ alternatives name → Begins alternatives empty (.sequence clauses) kind →
      Begins alternatives empty (.rule name) kind
  | here {clause rest kind} :
      Begins alternatives empty clause kind →
      Begins alternatives empty (.sequence (clause :: rest)) kind
  | behind {clause rest kind} :
      clause.nullable empty = true → Begins alternatives empty (.sequence rest) kind →
      Begins alternatives empty (.sequence (clause :: rest)) kind
  | choice {member members kind} :
      member ∈ members → Begins alternatives empty member kind →
      Begins alternatives empty (.choice members) kind
  | zeroOrMore {body kind} :
      Begins alternatives empty body kind → Begins alternatives empty (.zeroOrMore body) kind
  | oneOrMore {body kind} :
      Begins alternatives empty body kind → Begins alternatives empty (.oneOrMore body) kind
  | optional {body kind} :
      Begins alternatives empty body kind → Begins alternatives empty (.optional body) kind
  | group {body label kind} :
      Begins alternatives empty body kind → Begins alternatives empty (.group body label) kind

namespace Clause.Begins

variable {K : Type} {alternatives : String → List (List (Clause K))} {empty : String → Bool}
  {kind : K}

@[simp] theorem terminal_iff {expected : K} :
    Begins alternatives empty (.terminal expected) kind ↔ kind = expected := by
  constructor
  · intro begins; cases begins; rfl
  · rintro rfl; exact .terminal _

theorem rule_iff {name : String} :
    Begins alternatives empty (.rule name) kind ↔
      ∃ clauses ∈ alternatives name, Begins alternatives empty (.sequence clauses) kind := by
  constructor
  · intro begins
    cases begins with
    | rule member begins => exact ⟨_, member, begins⟩
  · rintro ⟨clauses, member, begins⟩
    exact .rule member begins

@[simp] theorem nil_iff : ¬ Begins alternatives empty (.sequence []) kind := by
  intro begins; cases begins

theorem cons_iff {clause : Clause K} {rest : List (Clause K)} :
    Begins alternatives empty (.sequence (clause :: rest)) kind ↔
      Begins alternatives empty clause kind ∨
        clause.nullable empty = true ∧ Begins alternatives empty (.sequence rest) kind := by
  constructor
  · intro begins
    cases begins with
    | here begins => exact Or.inl begins
    | behind nothing begins => exact Or.inr ⟨nothing, begins⟩
  · rintro (begins | ⟨nothing, begins⟩)
    · exact .here begins
    · exact .behind nothing begins

theorem choice_iff {members : List (Clause K)} :
    Begins alternatives empty (.choice members) kind ↔
      ∃ member ∈ members, Begins alternatives empty member kind := by
  constructor
  · intro begins
    cases begins with
    | choice among begins => exact ⟨_, among, begins⟩
  · rintro ⟨member, among, begins⟩
    exact .choice among begins

@[simp] theorem zeroOrMore_iff {body : Clause K} :
    Begins alternatives empty (.zeroOrMore body) kind ↔ Begins alternatives empty body kind :=
  ⟨fun begins => by cases begins; assumption, .zeroOrMore⟩

@[simp] theorem oneOrMore_iff {body : Clause K} :
    Begins alternatives empty (.oneOrMore body) kind ↔ Begins alternatives empty body kind :=
  ⟨fun begins => by cases begins; assumption, .oneOrMore⟩

@[simp] theorem optional_iff {body : Clause K} :
    Begins alternatives empty (.optional body) kind ↔ Begins alternatives empty body kind :=
  ⟨fun begins => by cases begins; assumption, .optional⟩

@[simp] theorem group_iff {body : Clause K} {label : Option String} :
    Begins alternatives empty (.group body label) kind ↔ Begins alternatives empty body kind :=
  ⟨fun begins => by cases begins; assumption, .group⟩

end Clause.Begins

/-! ### What a search keeps -/

section Finds

variable {K : Type} [TokenKind K]

/-- Every set in the memo is the first set of its rule. -/
def FirstMemo.Exact (begins : Clause K → K → Prop) (memo : FirstMemo K) : Prop :=
  ∀ name set, memo.lookup name = some (.found set) →
    ∀ kind, kind ∈ set ↔ begins (.rule name) kind

/-- The rules that are being visited have ranks above the limit. -/
def FirstMemo.Above (rank : String → Nat) (limit : Nat) (memo : FirstMemo K) : Prop :=
  ∀ name, memo.lookup name = some .entered → limit < rank name

theorem FirstMemo.exact_nil {begins : Clause K → K → Prop} :
    FirstMemo.Exact begins ([] : FirstMemo K) := by
  intro name set known; cases known

theorem FirstMemo.above_nil {rank : String → Nat} {limit : Nat} :
    FirstMemo.Above rank limit ([] : FirstMemo K) := by
  intro name entered; cases entered

/-- A rule that is entered has no first set yet. -/
theorem FirstMemo.Exact.enter {begins : Clause K → K → Prop} {memo : FirstMemo K}
    (exact : FirstMemo.Exact begins memo) (name : String) :
    FirstMemo.Exact begins ((name, .entered) :: memo) := by
  intro other set known
  rw [List.lookup_cons] at known
  split at known
  · cases known
  · exact exact other set known

/-- A rule that is left has the first set that was found for it. -/
theorem FirstMemo.Exact.leave {begins : Clause K → K → Prop} {memo : FirstMemo K}
    (exact : FirstMemo.Exact begins memo) {name : String} {set : KindSet K}
    (found : ∀ kind, kind ∈ set ↔ begins (.rule name) kind) :
    FirstMemo.Exact begins ((name, .found set) :: memo) := by
  intro other found' known
  rw [List.lookup_cons] at known
  split at known
  next same =>
    obtain rfl : other = name := by simpa using same
    cases known
    exact found
  next => exact exact other found' known

/-- While a rule is being visited the limit is just below its rank. -/
theorem FirstMemo.Above.enter {rank : String → Nat} {limit : Nat} {memo : FirstMemo K}
    (above : FirstMemo.Above rank limit memo) {name : String} (positive : 0 < rank name)
    (low : rank name ≤ limit) :
    FirstMemo.Above rank (rank name - 1) ((name, .entered) :: memo) := by
  intro other entered
  rw [List.lookup_cons] at entered
  split at entered
  next same =>
    obtain rfl : other = name := by simpa using same
    omega
  next =>
    have := above other entered
    omega

/-- The search finds exactly the kinds, as long as nothing up to the limit is being visited. It
keeps the memo exact and leaves no rule entered that was not entered before. -/
def Finds (begins : Clause K → K → Prop) (rank : String → Nat) (limit : Nat) (kinds : K → Prop)
    (find : FirstMemo K → KindSet K × FirstMemo K) : Prop :=
  ∀ memo, FirstMemo.Exact begins memo → FirstMemo.Above rank limit memo →
    (∀ kind, kind ∈ (find memo).1 ↔ kinds kind) ∧ FirstMemo.Exact begins (find memo).2 ∧
      ∀ name, (find memo).2.lookup name = some .entered → memo.lookup name = some .entered

variable {begins : Clause K → K → Prop} {rank : String → Nat} {limit : Nat}

theorem Finds.congr {kinds same : K → Prop} {find : FirstMemo K → KindSet K × FirstMemo K}
    (finds : Finds begins rank limit kinds find) (equal : ∀ kind, kinds kind ↔ same kind) :
    Finds begins rank limit same find := by
  intro memo exact above
  obtain ⟨found, kept, entered⟩ := finds memo exact above
  exact ⟨fun kind => (found kind).trans (equal kind), kept, entered⟩

theorem Finds.nothing : Finds begins rank limit (fun _ => False) fun memo => (∅, memo) :=
  fun _ exact _ => ⟨by simp, exact, fun _ => id⟩

/-- Two searches one after the other find the union. -/
theorem Finds.union {first second : K → Prop}
    {find onward : FirstMemo K → KindSet K × FirstMemo K}
    (here : Finds begins rank limit first find) (later : Finds begins rank limit second onward) :
    Finds begins rank limit (fun kind => first kind ∨ second kind) fun memo =>
      ((find memo).1 ∪ (onward (find memo).2).1, (onward (find memo).2).2) := by
  intro memo exact above
  obtain ⟨found, kept, entered⟩ := here memo exact above
  obtain ⟨found', kept', entered'⟩ := later _ kept fun name among => above name (entered name among)
  exact ⟨fun kind => by rw [KindSet.mem_union, found, found'], kept',
    fun name among => entered name (entered' name among)⟩

end Finds

namespace Clause

variable {K : Type} [TokenKind K] {alternatives : String → List (List (Clause K))}
  {empty : String → Bool} {rank : String → Nat} {limit : Nat}
  {visit : String → FirstMemo K → KindSet K × FirstMemo K}

/-- Clauses one after the other are found if each of them is. -/
theorem firstOfSequence_finds_of_each (clauses : List (Clause K))
    (each : ∀ clause ∈ clauses, (∀ name ∈ clause.leading empty, rank name ≤ limit) →
      Finds (Begins alternatives empty) rank limit (Begins alternatives empty clause)
        (clause.first visit empty))
    (low : ∀ name ∈ leadingOfSequence empty clauses, rank name ≤ limit) :
    Finds (Begins alternatives empty) rank limit (Begins alternatives empty (.sequence clauses))
      (firstOfSequence visit empty clauses) := by
  induction clauses with
  | nil => exact Finds.nothing.congr fun _ => by simp
  | cons clause rest ih =>
    simp only [leadingOfSequence, List.mem_append] at low
    have here := each clause List.mem_cons_self fun name among => low name (Or.inl among)
    cases nothing : clause.nullable empty with
    | true =>
      have later := ih (fun other member => each other (List.mem_cons_of_mem _ member))
        fun name among => low name (Or.inr (by simpa [nothing] using among))
      have equal (kind : K) :
          (Begins alternatives empty clause kind ∨ Begins alternatives empty (.sequence rest) kind) ↔
            Begins alternatives empty (.sequence (clause :: rest)) kind := by
        simp [Begins.cons_iff, nothing]
      simpa only [firstOfSequence, nothing, if_true] using (here.union later).congr equal
    | false =>
      -- The search stops here, and so does the relation.
      have equal (kind : K) : Begins alternatives empty clause kind ↔
          Begins alternatives empty (.sequence (clause :: rest)) kind := by
        simp [Begins.cons_iff, nothing]
      simpa [firstOfSequence, nothing] using here.congr equal

theorem firstOfChoice_finds_of_each (members : List (Clause K))
    (each : ∀ member ∈ members, (∀ name ∈ member.leading empty, rank name ≤ limit) →
      Finds (Begins alternatives empty) rank limit (Begins alternatives empty member)
        (member.first visit empty))
    (low : ∀ name ∈ leadingOfChoice empty members, rank name ≤ limit) :
    Finds (Begins alternatives empty) rank limit (Begins alternatives empty (.choice members))
      (firstOfChoice visit empty members) := by
  induction members with
  | nil => exact Finds.nothing.congr fun _ => by simp [Begins.choice_iff]
  | cons clause rest ih =>
    simp only [leadingOfChoice, List.mem_append] at low
    have here := each clause List.mem_cons_self fun name among => low name (Or.inl among)
    have later := ih (fun other member => each other (List.mem_cons_of_mem _ member))
      fun name among => low name (Or.inr among)
    exact (here.union later).congr fun _ => by simp [Begins.choice_iff]

/-- If the rules that a match of a clause can begin with are found, so is the clause. -/
theorem first_finds
    (visits : ∀ name, rank name ≤ limit →
      Finds (Begins alternatives empty) rank limit (Begins alternatives empty (.rule name))
        (visit name))
    (clause : Clause K) (low : ∀ name ∈ clause.leading empty, rank name ≤ limit) :
    Finds (Begins alternatives empty) rank limit (Begins alternatives empty clause)
      (clause.first visit empty) := by
  induction clause with
  | terminal kind =>
    intro memo exact _
    exact ⟨by simp [first], exact, fun _ => id⟩
  | rule name => exact visits name (low name (by simp [leading]))
  | sequence items ih =>
    rw [leading] at low
    exact firstOfSequence_finds_of_each items ih low
  | choice members ih =>
    rw [leading] at low
    exact firstOfChoice_finds_of_each members ih low
  | zeroOrMore body ih => exact (ih low).congr fun _ => Begins.zeroOrMore_iff.symm
  | oneOrMore body ih => exact (ih low).congr fun _ => Begins.oneOrMore_iff.symm
  | optional body ih => exact (ih low).congr fun _ => Begins.optional_iff.symm
  | group body label ih => exact (ih low).congr fun _ => Begins.group_iff.symm

theorem firstOfSequence_finds
    (visits : ∀ name, rank name ≤ limit →
      Finds (Begins alternatives empty) rank limit (Begins alternatives empty (.rule name))
        (visit name))
    (clauses : List (Clause K))
    (low : ∀ name ∈ leadingOfSequence empty clauses, rank name ≤ limit) :
    Finds (Begins alternatives empty) rank limit (Begins alternatives empty (.sequence clauses))
      (firstOfSequence visit empty clauses) :=
  firstOfSequence_finds_of_each clauses (fun clause _ => first_finds visits clause) low

end Clause

namespace Analysis

variable {K : Type} [TokenKind K] {productions : List (Production K)} {rank : String → Nat}

/-- What a match of the clause can begin with in the productions. -/
abbrev Begins (productions : List (Production K)) : Clause K → K → Prop :=
  Clause.Begins (Production.alternatives productions) (ofProductions productions).ruleNullable

theorem firstOfAlternatives_finds {limit : Nat}
    {find : List (Clause K) → FirstMemo K → KindSet K × FirstMemo K}
    (several : List (List (Clause K)))
    (each : ∀ clauses ∈ several,
      Finds (Begins productions) rank limit (Begins productions (.sequence clauses))
        (find clauses)) :
    Finds (Begins productions) rank limit
      (fun kind => ∃ clauses ∈ several, Begins productions (.sequence clauses) kind)
      (firstOfAlternatives find several) := by
  induction several with
  | nil => exact Finds.nothing.congr fun _ => by simp
  | cons clauses rest ih =>
    have here := each clauses List.mem_cons_self
    have later := ih fun other among => each other (List.mem_cons_of_mem _ among)
    exact (here.union later).congr fun _ => by simp

omit [TokenKind K] in
/-- A match of a name without a production begins with nothing. -/
theorem not_begins_of_undefined {name : String} (undefined : name ∉ Production.names productions)
    (kind : K) : ¬ Begins productions (.rule name) kind := by
  intro begins
  obtain ⟨clauses, member, -⟩ := Clause.Begins.rule_iff.mp begins
  exact undefined (Production.mem_names_of_mem_alternatives member)

/-- A visit finds the first set of a rule whose rank the bound and the limit allow. -/
theorem visitRule_finds (ranking : Ranking productions rank) {bound limit : Nat} {name : String}
    (deep : rank name ≤ bound) (low : rank name ≤ limit) :
    Finds (Begins productions) rank limit (Begins productions (.rule name))
      ((ofProductions productions).visitRule bound name) := by
  induction bound generalizing limit name with
  | zero =>
    intro memo exact above
    have undefined : name ∉ Production.names productions := by
      intro defined
      have := ranking.positive name defined
      omega
    simp only [visitRule]
    split
    next set known => exact ⟨exact name set known, exact, fun _ => id⟩
    next =>
      have none (kind : K) := not_begins_of_undefined undefined kind
      exact ⟨fun kind => iff_of_false KindSet.not_mem_empty (none kind), exact, fun _ => id⟩
  | succ bound ih =>
    intro memo exact above
    simp only [visitRule]
    split
    next set known => exact ⟨exact name set known, exact, fun _ => id⟩
    next entered =>
      -- What is being visited has a rank above the limit, so it is not this rule.
      have := above name entered
      omega
    next fresh =>
      split
      next defined =>
        have positive := ranking.positive name (Production.defines_iff.mp defined)
        have inner : Finds (Begins productions) rank (rank name - 1)
            (Begins productions (.rule name))
            (firstOfAlternatives (Clause.firstOfSequence
              ((ofProductions productions).visitRule bound) (ofProductions productions).ruleNullable)
              (Production.alternatives productions name)) := by
          refine (firstOfAlternatives_finds _ fun clauses member => ?_).congr
            fun _ => Clause.Begins.rule_iff.symm
          refine Clause.firstOfSequence_finds (fun other small => ih (by omega) small) clauses ?_
          intro other leading
          have := ranking.descends name clauses member other leading
          omega
        obtain ⟨found, kept, left⟩ := inner _ (exact.enter name) (above.enter positive low)
        refine ⟨found, kept.leave found, fun other entered => ?_⟩
        -- Only the rule itself was entered, and it is left by now.
        rw [List.lookup_cons] at entered
        split at entered
        next => cases entered
        next different =>
          have before := left other entered
          rw [List.lookup_cons] at before
          simpa [different] using before
      next undefined =>
        rw [Production.defines_iff] at undefined
        have none (kind : K) := not_begins_of_undefined undefined kind
        exact ⟨fun kind => iff_of_false KindSet.not_mem_empty (none kind), exact, fun _ => id⟩

/-- With the bound of a top level search every rule is found. -/
theorem ruleFirst_finds (ranking : Ranking productions rank) (name : String) :
    Finds (Begins productions) rank (Production.names productions).length
      (Begins productions (.rule name)) ((ofProductions productions).ruleFirst name) :=
  visitRule_finds ranking (ranking.bounded name) (ranking.bounded name)

theorem first_finds (ranking : Ranking productions rank) (clause : Clause K) :
    Finds (Begins productions) rank (Production.names productions).length
      (Begins productions clause) ((ofProductions productions).first clause) :=
  Clause.first_finds (fun name _ => ruleFirst_finds ranking name) clause
    fun name _ => ranking.bounded name

theorem sequenceFirst_finds (ranking : Ranking productions rank) (clauses : List (Clause K)) :
    Finds (Begins productions) rank (Production.names productions).length
      (Begins productions (.sequence clauses)) ((ofProductions productions).sequenceFirst clauses) :=
  Clause.firstOfSequence_finds (fun name _ => ruleFirst_finds ranking name) clauses
    fun name _ => ranking.bounded name

theorem length_firstOfEach {α : Type} (find : α → FirstMemo K → KindSet K × FirstMemo K)
    (items : List α) (memo : FirstMemo K) :
    (firstOfEach find items memo).1.length = items.length := by
  induction items generalizing memo with
  | nil => rfl
  | cons item rest ih => simp [firstOfEach, ih]

/-- Several searches with one memo find what each of them finds. -/
theorem firstOfEach_finds {α : Type} {limit : Nat} {kinds : α → K → Prop}
    {find : α → FirstMemo K → KindSet K × FirstMemo K} (items : List α)
    (each : ∀ item, Finds (Begins productions) rank limit (kinds item) (find item))
    {memo : FirstMemo K} (exact : FirstMemo.Exact (Begins productions) memo)
    (above : FirstMemo.Above rank limit memo) :
    List.Forall₂ (fun item set => ∀ kind, kind ∈ set ↔ kinds item kind) items
        (firstOfEach find items memo).1 ∧
      FirstMemo.Exact (Begins productions) (firstOfEach find items memo).2 ∧
      FirstMemo.Above rank limit (firstOfEach find items memo).2 := by
  induction items generalizing memo with
  | nil => exact ⟨.nil, exact, above⟩
  | cons item rest ih =>
    obtain ⟨found, kept, entered⟩ := each item memo exact above
    obtain ⟨others, kept', above'⟩ := ih kept fun name among => above name (entered name among)
    exact ⟨.cons found others, kept', above'⟩

end Analysis

end Lookahead
