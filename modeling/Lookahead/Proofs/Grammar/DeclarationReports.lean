import Lookahead.Proofs.Grammar.OverlapReports

/-!
# Reports of names and alternatives

Whatever else is wrong with what was declared, a rule that mentions a name without a production is
reported once for that name, however often and however deep the name stands in its alternatives,
and these reports come in the order in which the mentions are met first. An alternative that was
declared before is reported once, with the number of the first one that it is equal to. Alternatives
are numbered within their rule, wherever the productions of other rules stand.

Main statement: `GrammarBuilder.mentions_and_copies_reported`.
-/

namespace Lookahead

/-! ### From left to right -/

/-- The list holds what stands at places, from left to right. A place in front of another one comes
before it in the order of the dictionary. -/
def LeftToRight {α : Type} (list : List α) (stands : List Nat → α → Prop) : Prop :=
  ∃ marks : List (List Nat × α), marks.map Prod.snd = list ∧
    (∀ place item, (place, item) ∈ marks ↔ stands place item) ∧ marks.Pairwise (·.1 < ·.1)

namespace LeftToRight

variable {α β : Type} {list : List α} {stands others : List Nat → α → Prop}

theorem congr (ordered : LeftToRight list stands)
    (same : ∀ place item, stands place item ↔ others place item) : LeftToRight list others := by
  obtain ⟨marks, listed, found, ascending⟩ := ordered
  exact ⟨marks, listed, fun place item => (found place item).trans (same place item), ascending⟩

theorem singleton (item : α) : LeftToRight [item] fun place found => place = [] ∧ found = item :=
  ⟨[([], item)], rfl, by simp, List.pairwise_singleton _ _⟩

theorem map (ordered : LeftToRight list stands) (make : α → β) :
    LeftToRight (list.map make) fun place made => ∃ item, stands place item ∧ make item = made := by
  obtain ⟨marks, rfl, found, ascending⟩ := ordered
  refine ⟨marks.map fun mark => (mark.1, make mark.2), by simp, fun place made => ?_,
    List.pairwise_map.mpr ascending⟩
  simp [← found, and_comm]

theorem filter (ordered : LeftToRight list stands) (keeps : α → Bool) :
    LeftToRight (list.filter keeps) fun place item => stands place item ∧ keeps item = true := by
  obtain ⟨marks, rfl, found, ascending⟩ := ordered
  refine ⟨marks.filter fun mark => keeps mark.2, ?_, fun place item => ?_, ascending.filter _⟩
  · rw [List.filter_map]
    rfl
  · simp [← found]

theorem mem_iff (ordered : LeftToRight list stands) (item : α) :
    item ∈ list ↔ ∃ place, stands place item := by
  obtain ⟨marks, rfl, found, -⟩ := ordered
  simp [← found]

/-- What stands in parts one after the other, the number of the part in front of the place. -/
theorem flatMap_zipIdx {items : List α} {lists : α → List β} {stands : α → List Nat → β → Prop}
    (each : ∀ item ∈ items, LeftToRight (lists item) (stands item)) (start : Nat) :
    LeftToRight (items.flatMap lists) fun place found => ∃ number path item,
      place = number :: path ∧ (item, number) ∈ items.zipIdx start ∧ stands item path found := by
  induction items generalizing start with
  | nil => exact ⟨[], rfl, by simp, .nil⟩
  | cons item items ih =>
    obtain ⟨here, later⟩ := List.forall_mem_cons.mp each
    obtain ⟨marks, listed, found, ascending⟩ := here
    obtain ⟨others, listed', found', ascending'⟩ := ih later (start + 1)
    -- The first part has its number in front of its places, the others have greater numbers.
    refine ⟨marks.map (fun mark => (start :: mark.1, mark.2)) ++ others, ?_,
      fun place made => ?_, ?_⟩
    · simp [← listed, ← listed']
    · rw [List.mem_append, found', List.zipIdx_cons]
      constructor
      · rintro (first | ⟨number, path, part, rfl, among, stood⟩)
        · obtain ⟨⟨path, made⟩, among, same⟩ := List.mem_map.mp first
          cases same
          exact ⟨start, path, item, rfl, List.mem_cons_self, (found path made).mp among⟩
        · exact ⟨number, path, part, rfl, List.mem_cons_of_mem _ among, stood⟩
      · rintro ⟨number, path, part, rfl, among, stood⟩
        rcases List.mem_cons.mp among with same | later
        · cases same
          exact .inl (List.mem_map.mpr ⟨_, (found path made).mpr stood, rfl⟩)
        · exact .inr ⟨number, path, part, rfl, later, stood⟩
    · refine List.pairwise_append.mpr ⟨?_, ascending', ?_⟩
      · exact List.pairwise_map.mpr (ascending.imp fun before => List.cons_lt_cons_iff.mpr
          (.inr ⟨rfl, before⟩))
      · rintro first member ⟨place, made⟩ among
        obtain ⟨mark, -, rfl⟩ := List.mem_map.mp member
        obtain ⟨number, path, part, rfl, later, -⟩ := (found' place made).mp among
        have after := List.le_snd_of_mem_zipIdx later
        exact List.cons_lt_cons_iff.mpr (.inl (by omega))

/-- Each item is met for the first time before any that comes later. -/
theorem pairwise_eraseDups [BEq α] [LawfulBEq α] (ordered : LeftToRight list stands) :
    list.eraseDups.Pairwise fun earlier later =>
      ∃ place, stands place earlier ∧ ∀ other, stands other later → place < other := by
  obtain ⟨marks, rfl, found, ascending⟩ := ordered
  simp only [← found]
  clear found
  -- Of what is listed first all later mentions are taken out, so the rest is shorter.
  induction length : marks.length using Nat.strongRecOn generalizing marks with
  | _ size ih =>
    cases marks with
    | nil => exact .nil
    | cons mark marks =>
      obtain ⟨place, item⟩ := mark
      obtain ⟨first, later⟩ := List.pairwise_cons.mp ascending
      have rest : (marks.map Prod.snd).filter (fun other => !other == item) =
          (marks.filter fun mark => !mark.2 == item).map Prod.snd := by
        rw [List.filter_map]
        rfl
      rw [List.map_cons, List.eraseDups_cons, rest]
      -- What is left to be listed stands at none but the places that are left.
      have kept : ∀ other ∈ ((marks.filter fun mark => !mark.2 == item).map Prod.snd).eraseDups,
          ∀ spot, (spot, other) ∈ (place, item) :: marks →
            (spot, other) ∈ marks.filter fun mark => !mark.2 == item := by
        intro other member spot among
        obtain ⟨⟨_, _⟩, left, rfl⟩ := List.mem_map.mp (List.mem_eraseDups.mp member)
        have different := (List.mem_filter.mp left).2
        refine List.mem_filter.mpr ⟨(List.mem_cons.mp among).resolve_left ?_, different⟩
        rintro ⟨⟩
        simp at different
      refine .cons (fun other member => ⟨place, List.mem_cons_self, fun spot among => ?_⟩) ?_
      · exact first _ (List.mem_of_mem_filter (kept other member spot among))
      · have shorter : (marks.filter fun mark => !mark.2 == item).length < size := by
          rw [← length, List.length_cons]
          exact Nat.lt_succ_of_le (List.length_filter_le _ _)
        refine (ih _ shorter _ (later.filter _) rfl).imp_of_mem
          fun {earlier other} _ among before => ?_
        obtain ⟨spot, stands, ahead⟩ := before
        exact ⟨spot, List.mem_cons_of_mem _ (List.mem_of_mem_filter stands),
          fun last there => ahead last (kept other among last there)⟩

end LeftToRight

/-! ### Mentions of names -/

namespace Clause

variable {K : Type}

theorem ruleNamesAll_eq_flatMap (clauses : List (Clause K)) :
    ruleNamesAll clauses = clauses.flatMap ruleNames := by
  induction clauses with
  | nil => rfl
  | cons clause rest ih => rw [ruleNamesAll, ih, List.flatMap_cons]

/-- The names in a clause are listed from left to right. -/
theorem leftToRight_ruleNames (clause : Clause K) :
    LeftToRight clause.ruleNames fun place name => clause.at? place = some (.rule name) := by
  induction clause using parts_induction with
  | step clause ih =>
    have inside := LeftToRight.flatMap_zipIdx ih 0
    -- A clause is a mention itself, or it has its mentions in its parts.
    by_cases itself : ∃ name, clause = .rule name
    · obtain ⟨name, rfl⟩ := itself
      refine (LeftToRight.singleton name).congr fun place found => ?_
      cases place <;> simp [at?, parts, eq_comm]
    · have listed : clause.ruleNames = clause.parts.flatMap ruleNames := by
        cases clause <;> simp_all [ruleNames, parts, ruleNamesAll_eq_flatMap]
      rw [listed]
      refine inside.congr fun place name => ?_
      cases place with
      | nil =>
        have other : clause ≠ .rule name := fun same => itself ⟨name, same⟩
        simp [at?, other]
      | cons number path =>
        rw [at?_cons_eq_some]
        constructor
        · rintro ⟨_, _, part, ⟨⟩, among, stands⟩
          exact ⟨part, List.mem_zipIdx_iff_getElem?.mp among, stands⟩
        · rintro ⟨part, there, stands⟩
          exact ⟨number, path, part, rfl, List.mem_zipIdx_iff_getElem?.mpr there, stands⟩

end Clause

namespace Production

variable {K : Type} {productions : List (Production K)}

/-- At this place among the productions a name stands in an alternative of the rule. The place
begins with the number of the production. -/
def MentionsAt (productions : List (Production K)) (place : List Nat) (rule name : String) : Prop :=
  ∃ number path production, place = number :: path ∧ productions[number]? = some production ∧
    production.rule = rule ∧ (Clause.sequence production.clauses).at? path = some (.rule name)

theorem leftToRight_mentions (productions : List (Production K)) :
    LeftToRight
      (productions.flatMap fun production =>
        (Clause.ruleNamesAll production.clauses).map (production.rule, ·))
      fun place mention => MentionsAt productions place mention.1 mention.2 := by
  have each : ∀ production ∈ productions, LeftToRight
      ((Clause.ruleNamesAll production.clauses).map (production.rule, ·)) fun path mention =>
        ∃ name, (Clause.sequence production.clauses).at? path = some (.rule name) ∧
          (production.rule, name) = mention :=
    fun production _ => (Clause.leftToRight_ruleNames (.sequence production.clauses)).map _
  refine (LeftToRight.flatMap_zipIdx each 0).congr fun place mention => ?_
  obtain ⟨rule, name⟩ := mention
  constructor
  · rintro ⟨number, path, production, rfl, among, _, stands, ⟨⟩⟩
    exact ⟨number, path, production, rfl, List.mem_zipIdx_iff_getElem?.mp among, rfl, stands⟩
  · rintro ⟨number, path, production, rfl, there, rfl, stands⟩
    exact ⟨number, path, production, rfl, List.mem_zipIdx_iff_getElem?.mpr there, name, stands, rfl⟩

/-! ### Numbers of alternatives -/

/-- The rule has an alternative with these clauses and that number: so many productions of the rule
stand in front of it, whatever other productions stand between them. -/
def Numbered (productions : List (Production K)) (rule : String) (number : Nat)
    (clauses : List (Clause K)) : Prop :=
  ∃ before after, productions = before ++ ⟨rule, clauses⟩ :: after ∧
    before.countP (·.rule = rule) = number

theorem numbered_iff {rule : String} {number : Nat} {clauses : List (Clause K)} :
    Numbered productions rule number clauses ↔
      (alternatives productions rule)[number]? = some clauses := by
  constructor
  · rintro ⟨before, after, rfl, rfl⟩
    simp [alternatives, List.countP_eq_length_filter]
  · -- A production counts for the number just if it is one of the rule.
    induction productions generalizing number with
    | nil => simp [alternatives]
    | cons production productions ih =>
      intro found
      by_cases own : production.rule = rule
      · rw [alternatives, List.filter_cons_of_pos (by simpa using own), List.map_cons] at found
        cases number with
        | zero =>
          obtain rfl := own
          cases found
          exact ⟨[], productions, rfl, rfl⟩
        | succ number =>
          obtain ⟨before, after, rfl, rfl⟩ := ih found
          exact ⟨production :: before, after, rfl, by simp [own]⟩
      · rw [alternatives, List.filter_cons_of_neg (by simpa using own)] at found
        obtain ⟨before, after, rfl, rfl⟩ := ih found
        exact ⟨production :: before, after, rfl, by simp [own]⟩

end Production

/-- An alternative that was declared again, with the first one that it is equal to. -/
structure Copy (K : Type) where
  rule : String
  first : Nat
  second : Nat
  clauses : List (Clause K)

namespace Copy

variable {K : Type} [TokenKind K]

/-- The report of the copy. -/
def issue (copy : Copy K) : GrammarIssue K :=
  .duplicateAlternative copy.rule copy.first copy.second copy.clauses

/-- The alternative is among the productions, and the other one is the first that is equal to it. -/
structure Of (productions : List (Production K)) (copy : Copy K) : Prop where
  again : copy.first < copy.second
  later : Production.Numbered productions copy.rule copy.second copy.clauses
  earlier : Production.Numbered productions copy.rule copy.first copy.clauses
  least : ∀ number < copy.first, ¬ Production.Numbered productions copy.rule number copy.clauses

omit [TokenKind K] in
theorem Of.unique {productions : List (Production K)} {copy other : Copy K}
    (here : copy.Of productions) (there : other.Of productions) (rule : copy.rule = other.rule)
    (second : copy.second = other.second) : copy = other := by
  obtain ⟨name, first, number, clauses⟩ := copy
  obtain ⟨_, first', _, clauses'⟩ := other
  cases rule
  cases second
  obtain rfl : clauses = clauses' := Option.some.inj
    ((Production.numbered_iff.mp here.later).symm.trans (Production.numbered_iff.mp there.later))
  -- Each of the two numbers is the least one of an equal alternative.
  obtain before | rfl | after := Nat.lt_trichotomy first first'
  · exact absurd here.earlier (there.least first before)
  · rfl
  · exact absurd there.earlier (here.least first' after)

end Copy

namespace Resolve

variable {K V C : Type} [TokenKind K] {policy : OverlapPolicy} {productions : List (Production K)}

/-! ### The checks -/

/-- An alternative is looked for among those in front of the second place. -/
theorem findIdx?_take_iff {alternatives : List (List (Clause K))} {first second : Nat}
    {later : List (Clause K)} :
    (alternatives.take second).findIdx? (· = later) = some first ↔
      first < second ∧ alternatives[first]? = some later ∧
        ∀ number < first, alternatives[number]? ≠ some later := by
  rw [List.findIdx?_eq_some_iff_getElem]
  constructor
  · rintro ⟨short, found, least⟩
    rw [List.length_take] at short
    refine ⟨by omega, List.getElem?_eq_some_iff.mpr ⟨by omega, by simpa using found⟩,
      fun number before => ?_⟩
    rw [List.getElem?_eq_getElem (by omega)]
    simpa using least number before
  · rintro ⟨before, found, least⟩
    obtain ⟨long, found⟩ := List.getElem?_eq_some_iff.mp found
    refine ⟨by rw [List.length_take]; omega, by simpa using found, fun number less => ?_⟩
    have different := least number less
    rw [List.getElem?_eq_getElem (by omega)] at different
    simpa using different

/-- The copies among the alternatives of the rule `name`, in the order of their reports. -/
def copiesOf (productions : List (Production K)) (name : String) : List (Copy K) :=
  let alternatives := Production.alternatives productions name
  alternatives.zipIdx.filterMap fun (later, second) =>
    ((alternatives.take second).findIdx? (· = later)).map fun first => ⟨name, first, second, later⟩

theorem mem_copiesOf {name : String} {copy : Copy K} :
    copy ∈ copiesOf productions name ↔ copy.rule = name ∧ copy.Of productions := by
  simp only [copiesOf, List.mem_filterMap, Option.map_eq_some_iff, findIdx?_take_iff]
  constructor
  · rintro ⟨⟨later, second⟩, among, first, ⟨before, earlier, least⟩, rfl⟩
    refine ⟨rfl, before, ?_, ?_, fun number less => ?_⟩
    · exact Production.numbered_iff.mpr (List.mem_zipIdx_iff_getElem?.mp among)
    · exact Production.numbered_iff.mpr earlier
    · exact fun same => least number less (Production.numbered_iff.mp same)
  · obtain ⟨rule, first, second, later⟩ := copy
    rintro ⟨rfl, before, again, earlier, least⟩
    refine ⟨(later, second), ?_, first, ⟨before, ?_, fun number less => ?_⟩, rfl⟩
    · exact List.mem_zipIdx_iff_getElem?.mpr (Production.numbered_iff.mp again)
    · exact Production.numbered_iff.mp earlier
    · exact fun same => least number less (Production.numbered_iff.mpr same)

theorem nodup_copiesOf (productions : List (Production K)) (name : String) :
    (copiesOf productions name).Nodup := by
  have numbers : (Production.alternatives productions name).zipIdx.Nodup :=
    (pairwise_zipIdx _ 0).imp fun different same => different (congrArg Prod.snd same)
  refine List.Nodup.filterMap ?_ numbers
  -- A copy tells the alternative that it was made of.
  rintro ⟨later, second⟩ ⟨later', second'⟩ copy here there
  obtain ⟨first, -, rfl⟩ := Option.map_eq_some_iff.mp here
  obtain ⟨first', -, same⟩ := Option.map_eq_some_iff.mp there
  cases same
  rfl

/-- What is reported of alternatives are the copies among them, and no alternative is reported
twice. -/
theorem exists_copies (productions : List (Production K)) :
    ∃ copies : List (Copy K), (copies.map fun copy => (copy.rule, copy.second)).Nodup ∧
      (∀ copy, copy ∈ copies ↔ copy.Of productions) ∧
      duplicates productions = copies.map Copy.issue := by
  have listed (copy : Copy K) :
      copy ∈ (Production.names productions).flatMap (copiesOf productions) ↔
        copy.Of productions := by
    simp only [List.mem_flatMap, mem_copiesOf]
    constructor
    · rintro ⟨_, -, -, among⟩
      exact among
    · intro among
      have later := List.mem_of_getElem? (Production.numbered_iff.mp among.later)
      exact ⟨copy.rule, Production.mem_names_of_mem_alternatives later, rfl, among⟩
  have nodup : ((Production.names productions).flatMap (copiesOf productions)).Nodup := by
    refine List.nodup_flatMap.mpr ⟨fun name _ => nodup_copiesOf productions name, ?_⟩
    have names : (Production.names productions).Nodup := nodup_eraseDups _
    refine names.imp fun {name other} different copy here there => ?_
    exact different ((mem_copiesOf.mp here).1.symm.trans (mem_copiesOf.mp there).1)
  refine ⟨_, nodup.map_on fun copy here other there same => ?_, listed, ?_⟩
  · rw [Prod.mk.injEq] at same
    exact ((listed copy).mp here).unique ((listed other).mp there) same.1 same.2
  · simp only [duplicates, List.map_flatMap, copiesOf, List.map_filterMap, Option.map_map]
    rfl

/-- What is reported of names are the mentions of a name that no production has, each of them once,
in the order in which they are met. -/
theorem exists_mentions (productions : List (Production K)) :
    ∃ mentions : List (String × String), mentions.Nodup ∧
      (∀ rule name, (rule, name) ∈ mentions ↔
        (∃ place, Production.MentionsAt productions place rule name) ∧
          ∀ production ∈ productions, production.rule ≠ name) ∧
      mentions.Pairwise (fun earlier later =>
        ∃ place, Production.MentionsAt productions place earlier.1 earlier.2 ∧
          ∀ other, Production.MentionsAt productions other later.1 later.2 → place < other) ∧
      undefinedRules productions =
        mentions.map fun mention => .undefinedRule mention.1 mention.2 := by
  have ordered := (Production.leftToRight_mentions productions).filter fun mention =>
    !Production.defines productions mention.2
  have undefined (name : String) : (!Production.defines productions name) = true ↔
      ∀ production ∈ productions, production.rule ≠ name := by
    simp [Production.defines]
  refine ⟨_, nodup_eraseDups _, fun rule name => ?_, ?_, rfl⟩
  · rw [List.mem_eraseDups, ordered.mem_iff, ← undefined, exists_and_right]
  · refine ordered.pairwise_eraseDups.imp_of_mem fun {earlier later} _ member before => ?_
    -- The later name has no production either, so all of its mentions count.
    obtain ⟨place, ⟨mentioned, -⟩, ahead⟩ := before
    have kept := (List.mem_filter.mp (List.mem_eraseDups.mp member)).2
    exact ⟨place, mentioned, fun other there => ahead other ⟨there, kept⟩⟩

/-! ### Reports with one code -/

theorem filter_code {issues : List (GrammarIssue K)} {code : DiagnosticCode}
    (all : ∀ issue ∈ issues, (issue.diagnostic policy).code = code) (wanted : DiagnosticCode) :
    (issues.map (GrammarIssue.diagnostic policy)).filter (·.code = wanted) =
      if code = wanted then issues.map (GrammarIssue.diagnostic policy) else [] := by
  split
  next same =>
    refine List.filter_eq_self.mpr fun diagnostic member => ?_
    obtain ⟨issue, among, rfl⟩ := List.mem_map.mp member
    simpa [all issue among] using same
  next other =>
    refine List.filter_eq_nil_iff.mpr fun diagnostic member => ?_
    obtain ⟨issue, among, rfl⟩ := List.mem_map.mp member
    simpa [all issue among] using other

theorem exists_overlaps (policy : OverlapPolicy) (productions : List (Production K)) :
    ∃ overlapping : List (GrammarIssue K),
      (∀ issue ∈ overlapping, (issue.diagnostic policy).code = .ambiguousAlternatives) ∧
      issues policy productions = undefinedRules productions ++ duplicates productions ++
        leftRecursive (Analysis.ofProductions productions) ++ overlapping := by
  refine ⟨_, fun issue member => ?_, rfl⟩
  split at member
  next => cases member
  next =>
    -- What the other checks leave to be found are overlaps.
    obtain ⟨pairs, -, -, -, reported⟩ := exists_reported_pairs productions
    obtain ⟨pair, -, about⟩ := exists_mem_of_forall₂ reported.flip member
    exact tellsOverlap_of_reported about

/-- Each check reports with a code of its own, so what the first two of them find can be told from
all the rest. -/
theorem filter_diagnostics_issues (policy : OverlapPolicy) (productions : List (Production K)) :
    let diagnostics := (issues policy productions).map (GrammarIssue.diagnostic policy)
    diagnostics.filter (·.code = .undefinedRule) =
        (undefinedRules productions).map (GrammarIssue.diagnostic policy) ∧
      diagnostics.filter (·.code = .duplicateAlternative) =
        (duplicates productions).map (GrammarIssue.diagnostic policy) := by
  intro diagnostics
  obtain ⟨overlapping, overlaps, whole⟩ := exists_overlaps policy productions
  simp only [diagnostics, whole, List.map_append, List.filter_append,
    filter_code fun _ => code_of_mem_undefinedRules, filter_code fun _ => code_of_mem_duplicates,
    filter_code fun _ => code_of_mem_leftRecursive, filter_code overlaps, reduceCtorEq, if_false,
    if_true, List.append_nil, List.nil_append, and_self]

theorem filter_diagnostics_resolve {pending : List (GrammarIssue K)}
    (texts : ∀ issue ∈ pending, (issue.diagnostic policy).code = .invalidRuleText)
    (declared : List (SemanticProduction K V C)) :
    let productions := bare declared
    let diagnostics := (Grammar.resolve policy pending declared).diagnostics
    diagnostics.filter (·.code = .undefinedRule) =
        (undefinedRules productions).map (GrammarIssue.diagnostic policy) ∧
      diagnostics.filter (·.code = .duplicateAlternative) =
        (duplicates productions).map (GrammarIssue.diagnostic policy) := by
  intro productions diagnostics
  have split (issues : List (GrammarIssue K)) (wanted : DiagnosticCode)
      (other : .invalidRuleText ≠ wanted) :
      ((pending ++ issues).map (GrammarIssue.diagnostic policy)).filter (·.code = wanted) =
        (issues.map (GrammarIssue.diagnostic policy)).filter (·.code = wanted) := by
    rw [List.map_append, List.filter_append, filter_code texts, if_neg other, List.nil_append]
  have both (issues : List (GrammarIssue K))
      (here : diagnostics = (pending ++ issues).map (GrammarIssue.diagnostic policy)) :=
    And.intro (here ▸ split issues .undefinedRule nofun)
      (here ▸ split issues .duplicateAlternative nofun)
  cases declared with
  | nil =>
    -- That there are no productions is reported with a code of its own.
    exact both [.noProductions] rfl
  | cons first rest =>
    obtain ⟨undefined, duplicate⟩ := both (issues policy productions) rfl
    obtain ⟨undefined', duplicate'⟩ := filter_diagnostics_issues policy productions
    exact ⟨undefined.trans undefined', duplicate.trans duplicate'⟩

end Resolve

namespace GrammarBuilder

variable {K V C : Type} [TokenKind K]

/-- Whatever else is wrong with what was declared, there is one report for each rule and each name
without a production that stands at any place in an alternative of the rule, and these reports come
in the order in which the names are met first, from left to right. And there is one report for each
alternative that is equal to an earlier one of the same rule; it tells the number of the first such
alternative and its own, as they are counted within the rule. -/
theorem mentions_and_copies_reported (policy : OverlapPolicy) (kind? : String → Option K)
    (declarations : List (Declaration K V C)) :
    let declared := declarations.filterMap (·.production? kind?)
    let productions := declared.map (·.toProduction)
    let diagnostics := (ofDeclarations policy kind? declarations).resolve.diagnostics
    (∃ mentions : List (String × String), mentions.Nodup ∧
      (∀ rule name, (rule, name) ∈ mentions ↔
        (∃ place, Production.MentionsAt productions place rule name) ∧
          ∀ production ∈ productions, production.rule ≠ name) ∧
      mentions.Pairwise (fun earlier later =>
        ∃ place, Production.MentionsAt productions place earlier.1 earlier.2 ∧
          ∀ other, Production.MentionsAt productions other later.1 later.2 → place < other) ∧
      diagnostics.filter (·.code = .undefinedRule) = mentions.map fun mention =>
        (GrammarIssue.undefinedRule mention.1 mention.2 : GrammarIssue K).diagnostic policy) ∧
    ∃ copies : List (Copy K), (copies.map fun copy => (copy.rule, copy.second)).Nodup ∧
      (∀ copy, copy ∈ copies ↔ copy.Of productions) ∧
      diagnostics.filter (·.code = .duplicateAlternative) =
        copies.map fun copy => copy.issue.diagnostic policy := by
  intro declared productions diagnostics
  have others : ∀ issue ∈ declarations.filterMap (·.issue? kind?),
      (issue.diagnostic policy).code = .invalidRuleText := by
    intro issue member
    obtain ⟨declaration, -, found⟩ := List.mem_filterMap.mp member
    exact code_of_issue? found
  obtain ⟨undefined, duplicate⟩ := Resolve.filter_diagnostics_resolve others declared
  rw [← resolve_ofDeclarations] at undefined duplicate
  obtain ⟨mentions, nodup, listed, ordered, same⟩ := Resolve.exists_mentions productions
  obtain ⟨copies, once, listed', same'⟩ := Resolve.exists_copies productions
  refine ⟨⟨mentions, nodup, listed, ordered, ?_⟩, copies, once, listed', ?_⟩
  · rw [undefined, same, List.map_map]
    rfl
  · rw [duplicate, same', List.map_map]
    rfl

/-- The production in between counts neither for the places of names nor for the numbers. -/
example :
    let again : List (Clause Sample.Mark) := [.rule "c", .optional (.rule "d")]
    ((ofDeclarations .allow (fun _ => none) [Sample.declared "a" again,
      Sample.declared "b" [.rule "d"], Sample.declared "a" again]).resolve.diagnostics.map
        (·.message)) =
      ["rule `a` refers to undefined rule `c`", "rule `a` refers to undefined rule `d`",
        "rule `b` refers to undefined rule `d`",
        "alternatives #0 and #1 of rule `a` are both `c d?`"] := by
  decide

end GrammarBuilder

end Lookahead
