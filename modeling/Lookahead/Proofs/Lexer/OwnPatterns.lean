import Lookahead.Proofs.Lexer.LongestMatch
import Lookahead.Proofs.Regex.AnchoredPattern

/-!
# Lexemes match what their own patterns match

A lexeme is made of its pattern in a group that is held to the start of the text. If the pattern is
well formed by itself, the lexeme matches just what the pattern matches at the start, so every
segment of the input is matched by the pattern that was declared for it. The build does not see to
it that patterns are well formed by themselves. One that closes the group and opens another one is
taken too, and a part of it is not held to the start then.

Main statement: `LexemeTable.run_owned`.
-/

namespace Lookahead

namespace LexemeDeclaration

variable {K : Type} {declaration : LexemeDeclaration K} {lexeme : Lexeme K}

theorem anchored_eq (declaration : LexemeDeclaration K) :
    declaration.anchored = Pattern.anchored declaration.pattern.toList := by
  simp [anchored, Pattern.anchored]

/-- A lexeme matches what its pattern matches at the start of the text, if the pattern is well
formed by itself. -/
theorem matchLength_iff_find? {regex : Regex} (compiled : declaration.compile = .ok lexeme)
    (own : Regex.ofPattern? declaration.pattern.toList = some regex) {text : List Char}
    {length : Nat} :
    lexeme.matchLength text = some length ↔ regex.searcher.find? text = some (0, length) := by
  rw [compile] at compiled
  split at compiled
  next => cases compiled
  next anchored held =>
    rw [anchored_eq] at held
    dsimp only at compiled
    split at compiled
    · cases compiled
    · cases compiled
      rw [Searcher.find?_eq_start]
      change Option.map _ (anchored.searcher.find? text) = some length ↔ _
      rw [Regex.find?_of_anchored own held]
      simp [Regex.searcher]

end LexemeDeclaration

namespace LexemeTable

variable {K : Type} {declarations : List (LexemeDeclaration K)} {table : LexemeTable K}

/-- The lexeme of the segment was made of a declaration. The pattern of the declaration, if it is
well formed by itself, matches the text of the segment and begins where the segment begins. -/
def Owned (declarations : List (LexemeDeclaration K)) (segment : Segment K) (behind : List Char) :
    Prop :=
  ∃ declaration ∈ declarations, declaration.compile = .ok segment.lexeme ∧
    ∀ regex, Regex.ofPattern? declaration.pattern.toList = some regex →
      regex.searcher.find? (segment.text ++ behind) = some (0, segment.text.length)

theorem Takes.owned [TokenKind K] (built : (build declarations).value = some table)
    {segment : Segment K} {behind : List Char} (takes : table.Takes segment behind) :
    Owned declarations segment behind := by
  obtain ⟨declaration, declared, compiled⟩ := exists_compile_of_build built takes.member
  exact ⟨declaration, declared, compiled, fun regex own =>
    (LexemeDeclaration.matchLength_iff_find? compiled own).mp takes.matched⟩

/-- Behind each segment of a text stand the other ones and what is left. -/
theorem Segmentation.takes {rest text : List Char} {segments earlier later : List (Segment K)}
    {segment : Segment K} (segmentation : table.Segmentation rest segments text)
    (split : segments = earlier ++ segment :: later) :
    table.Takes segment (textOf later ++ rest) := by
  induction segmentation generalizing earlier with
  | nil => simp at split
  | cons takes onward ih =>
    cases earlier with
    | nil =>
      obtain ⟨rfl, rfl⟩ := List.cons.inj split
      rwa [onward.textOf_append]
    | cons first earlier => exact ih (List.cons.inj split).2

/-- Whatever a reading answers, it has divided the text up to a place into segments, each of which
its own pattern matches where it begins. -/
theorem run_owned [TokenKind K] (built : (build declarations).value = some table)
    (front text : List Char) {position : Position}
    (placed : position.index = Text.byteLength front) :
    ∃ segments rest, table.Segmentation rest segments text ∧
      (∀ earlier segment later, segments = earlier ++ segment :: later →
        Owned declarations segment (textOf later ++ rest)) ∧
      match table.run (front ++ text) position with
      | .ok none => rest = [] ∧ tokensOf position segments = []
      | .ok (some (token, next)) =>
        tokensOf position segments = [token] ∧ next = placeBehind position segments
      | .error error =>
        rest ≠ [] ∧ Silent table.lexemes rest ∧ error.position = placeBehind position segments := by
  have answers : table.Answers front position text (table.run (front ++ text) position) :=
    run_answers (within_of_build built) placed
  have owned {segments : List (Segment K)} {rest : List Char}
      (segmentation : table.Segmentation rest segments text) (earlier : List (Segment K))
      (segment : Segment K) (later : List (Segment K))
      (split : segments = earlier ++ segment :: later) :
      Owned declarations segment (textOf later ++ rest) :=
    (segmentation.takes split).owned built
  match table.run (front ++ text) position, answers with
  | .ok none, answers =>
    obtain ⟨segments, segmentation, silent⟩ := answers
    exact ⟨segments, [], segmentation, owned segmentation, rfl, silent⟩
  | .ok (some (token, next)), answers =>
    obtain ⟨segments, rest, segmentation, one, behind, -⟩ := answers
    exact ⟨segments, rest, segmentation, owned segmentation, one, behind⟩
  | .error error, answers =>
    obtain ⟨segments, rest, segmentation, full, silent, rfl⟩ := answers
    exact ⟨segments, rest, segmentation, owned segmentation, full, silent, rfl⟩

end LexemeTable

/-- A word stands behind a line end, which is passed over. All the patterns are well formed by
themselves, so each of the two was matched by its own. -/
theorem LexemeTable.run_owned_lines :
    (∀ declaration ∈ Sample.lineLexemes,
      (Regex.ofPattern? declaration.pattern.toList).isSome) ∧
    ∃ table, (LexemeTable.build Sample.lineLexemes).value = some table ∧
      ∃ segments rest, table.Segmentation rest segments "\nlets".toList ∧
        (∀ earlier segment later, segments = earlier ++ segment :: later →
          Owned Sample.lineLexemes segment (textOf later ++ rest)) ∧
        tokensOf .start segments = [⟨.word, "lets".toList, ⟨1, 2, 1⟩⟩] := by
  have computed : ((LexemeTable.build Sample.lineLexemes).value.bind fun table =>
      (table.run "\nlets".toList .start).toOption) =
      some (some (⟨.word, "lets".toList, ⟨1, 2, 1⟩⟩, ⟨5, 2, 5⟩)) := by
    decide +kernel
  obtain ⟨table, built, answered⟩ := Option.bind_eq_some_iff.mp computed
  obtain ⟨segments, rest, segmentation, owned, found⟩ :=
    LexemeTable.run_owned built [] "\nlets".toList
      (rfl : Position.start.index = Text.byteLength [])
  refine ⟨by decide +kernel, table, built, segments, rest, segmentation, owned, ?_⟩
  rw [List.nil_append] at found
  cases answer : table.run "\nlets".toList .start with
  | error error =>
    rw [answer] at answered
    cases answered
  | ok read =>
    rw [answer] at answered found
    cases answered
    exact found.1

/-- A pattern that is not well formed by itself closes the group around it and opens another one.
The part behind the bar is not held to the start then, so that what stands in front of its match is
taken along, though no part of the pattern matches it. -/
theorem LexemeTable.run_unowned_bar :
    Regex.ofPattern? "a)|(?:b".toList = none ∧
      ∃ table, (LexemeTable.build [⟨Sample.Mark.word, "a)|(?:b", false, false⟩]).value =
          some table ∧
        (table.run "xb".toList .start).toOption =
          some (some (⟨.word, "xb".toList, .start⟩, ⟨2, 1, 3⟩)) := by
  have computed : ((LexemeTable.build [⟨Sample.Mark.word, "a)|(?:b", false, false⟩]).value.bind
      fun table => (table.run "xb".toList .start).toOption) =
      some (some (⟨.word, "xb".toList, .start⟩, ⟨2, 1, 3⟩)) := by
    decide +kernel
  exact ⟨by decide +kernel, Option.bind_eq_some_iff.mp computed⟩

end Lookahead
