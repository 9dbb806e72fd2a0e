import Lookahead.Lexer.Lexemes

/-!
# Where matches end

A match takes characters of the text, so it does not reach past its end. This holds of every lexeme
that comes from a regular expression, and so of every one in the table of a lexer that was built.

Main statements: `Searcher.end_le_of_find?` and `LexemeTable.within_of_build`.
-/

namespace Lookahead

namespace Program

theorem advance_le (program : Program) {read length : Nat} {best : Option Nat}
    {before : Option Char} {ways : List Nat} {entered : Array Nat} {text : List Char}
    (within : ∀ other ∈ best, other ≤ read + text.length)
    (found : program.advance read best before ways entered text = some length) :
    length ≤ read + text.length := by
  induction text generalizing read best before ways entered with
  | nil =>
    rw [advance] at found
    split at found
    · cases found
      exact Nat.le_refl _
    · exact within length found
  | cons c rest ih =>
    -- A match that ends here takes what was read, and that is not more.
    have here : ∀ ended : Bool, ∀ other ∈ (if ended then some read else best),
        other ≤ read + (c :: rest).length := by
      intro ended other chosen
      split at chosen
      · cases chosen
        exact Nat.le_add_right _ _
      · exact within other chosen
    rw [advance] at found
    split at found
    · exact here _ length found
    · have later := ih (fun other chosen => ?_) found
      · rw [List.length_cons]
        omega
      · have bounded := here _ other chosen
        rw [List.length_cons] at bounded
        omega

theorem matchLength?_le {program : Program} {before : Option Char} {text : List Char}
    {length : Nat} (found : program.matchLength? before text = some length) :
    length ≤ text.length := by
  have bounded := program.advance_le (fun other chosen => by cases chosen) found
  rwa [Nat.zero_add] at bounded

theorem end_le_of_findFrom {program : Program} {anchored : Bool} {passed skipped length : Nat}
    {before : Option Char} {text : List Char}
    (found : program.findFrom anchored passed before text = some (skipped, length)) :
    skipped + length ≤ passed + text.length := by
  induction text generalizing passed before with
  | nil =>
    obtain ⟨taken, ended, same⟩ := Option.map_eq_some_iff.mp found
    cases same
    exact Nat.add_le_add_left (matchLength?_le ended) _
  | cons c rest ih =>
    rw [findFrom] at found
    split at found
    next taken ended =>
      cases found
      exact Nat.add_le_add_left (matchLength?_le ended) _
    next =>
      split at found
      · cases found
      · have later := ih found
        rw [List.length_cons]
        omega

end Program

theorem Searcher.end_le_of_find? {searcher : Searcher} {text : List Char} {skipped length : Nat}
    (found : searcher.find? text = some (skipped, length)) : skipped + length ≤ text.length := by
  have bounded := Program.end_le_of_findFrom found
  rwa [Nat.zero_add] at bounded

variable {K : Type}

/-- The lexeme matches no more than there is. -/
def Lexeme.Within (lexeme : Lexeme K) : Prop :=
  ∀ text, ∀ length ∈ lexeme.matchLength text, length ≤ text.length

theorem LexemeDeclaration.within_lexeme (declaration : LexemeDeclaration K) (searcher : Searcher) :
    (declaration.lexeme searcher).Within := by
  intro text length found
  obtain ⟨⟨skipped, taken⟩, matched, same⟩ := Option.map_eq_some_iff.mp found
  cases same
  exact Searcher.end_le_of_find? matched

theorem LexemeDeclaration.within_of_compile {declaration : LexemeDeclaration K}
    {lexeme : Lexeme K} (compiled : declaration.compile = .ok lexeme) : lexeme.Within := by
  rw [compile] at compiled
  split at compiled
  next => cases compiled
  next regex _ =>
    dsimp only at compiled
    split at compiled
    · cases compiled
    · cases compiled
      exact declaration.within_lexeme regex.searcher

namespace LexemeTable

/-- Every lexeme of a lexer that was built was made of one of the declarations. -/
theorem exists_compile_of_build [TokenKind K] {declarations : List (LexemeDeclaration K)}
    {table : LexemeTable K} (built : (build declarations).value = some table) {lexeme : Lexeme K}
    (member : lexeme ∈ table.lexemes) :
    ∃ declaration ∈ declarations, declaration.compile = .ok lexeme := by
  rw [build, Build.ofValue] at built
  dsimp only at built
  split at built
  next => cases built
  next =>
    cases built
    obtain ⟨compiled, origin, kept⟩ := List.mem_filterMap.mp member
    obtain ⟨declaration, declared, rfl⟩ := List.mem_map.mp origin
    refine ⟨declaration, declared, ?_⟩
    cases made : declaration.compile with
    | error issue =>
      rw [made] at kept
      cases kept
    | ok other =>
      rw [made] at kept
      cases kept
      rfl

/-- No lexeme of a lexer that was built matches more than there is. -/
theorem within_of_build [TokenKind K] {declarations : List (LexemeDeclaration K)}
    {table : LexemeTable K} (built : (build declarations).value = some table) :
    ∀ lexeme ∈ table.lexemes, lexeme.Within := by
  intro lexeme member
  obtain ⟨declaration, -, compiled⟩ := exists_compile_of_build built member
  exact declaration.within_of_compile compiled

end LexemeTable

end Lookahead
