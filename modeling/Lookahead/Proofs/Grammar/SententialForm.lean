import Lookahead.Proofs.Grammar.EmptyWords
import Mathlib.Logic.Relation

/-!
# Derivations of forms

A form is a list of clauses that are to be matched one after the other. It is derived further by
putting in the place of a clause what the clause stands for. A leftmost derivation goes on with the
first clause that is not a terminal.

Main statements: `Form.yields_of_derives` (every word of a clause is derived from it) and
`Form.fronts_terminal` (so is a form in front of which stands a kind that the clause can begin
with).
-/

namespace Lookahead

open Relation

/-- One step of what a clause stands for, where `alternatives` tells what the rules stand for. -/
inductive Clause.Expands {K : Type} (alternatives : String → List (List (Clause K))) :
    Clause K → List (Clause K) → Prop
  | rule {name clauses} :
      clauses ∈ alternatives name → Expands alternatives (.rule name) clauses
  | sequence (items) : Expands alternatives (.sequence items) items
  | choice {members member} :
      member ∈ members → Expands alternatives (.choice members) [member]
  | stop (body) : Expands alternatives (.zeroOrMore body) []
  | more (body) : Expands alternatives (.zeroOrMore body) [body, .zeroOrMore body]
  | oneOrMore (body) : Expands alternatives (.oneOrMore body) [body, .zeroOrMore body]
  | absent (body) : Expands alternatives (.optional body) []
  | present (body) : Expands alternatives (.optional body) [body]
  | group (body label) : Expands alternatives (.group body label) [body]

/-- Clauses to be matched one after the other. -/
abbrev Form (K : Type) := List (Clause K)

namespace Form

variable {K : Type} {alternatives : String → List (List (Clause K))} {form other : Form K}

/-- A clause anywhere in the form is expanded. -/
inductive Rewrites (alternatives : String → List (List (Clause K))) : Form K → Form K → Prop
  | step (before : Form K) {clause : Clause K} {expansion : Form K} (rest : Form K) :
      clause.Expands alternatives expansion →
      Rewrites alternatives (before ++ clause :: rest) (before ++ (expansion ++ rest))

/-- A form that is read: one terminal for each kind of a word. -/
def ofWord (word : List K) : Form K := word.map .terminal

@[simp] theorem ofWord_nil : ofWord ([] : List K) = [] := rfl

@[simp] theorem ofWord_cons (kind : K) (word : List K) :
    ofWord (kind :: word) = .terminal kind :: ofWord word := rfl

@[simp] theorem ofWord_append (word words : List K) :
    ofWord (word ++ words) = ofWord word ++ ofWord words := List.map_append

/-- The first clause that is not a terminal is expanded. -/
inductive Leftmost (alternatives : String → List (List (Clause K))) : Form K → Form K → Prop
  | step (read : List K) {clause : Clause K} {expansion : Form K} (rest : Form K) :
      clause.Expands alternatives expansion →
      Leftmost alternatives (ofWord read ++ clause :: rest) (ofWord read ++ (expansion ++ rest))

/-- There is a leftmost derivation of the second form from the first one. -/
abbrev Yields (alternatives : String → List (List (Clause K))) : Form K → Form K → Prop :=
  ReflTransGen (Leftmost alternatives)

/-! ### Derivations in a context -/

theorem Leftmost.rewrites (step : Leftmost alternatives form other) :
    Rewrites alternatives form other := by
  cases step with
  | step read rest expands => exact .step (ofWord read) rest expands

theorem Leftmost.context (step : Leftmost alternatives form other) (read : List K)
    (rest : Form K) :
    Leftmost alternatives (ofWord read ++ (form ++ rest)) (ofWord read ++ (other ++ rest)) := by
  cases step with
  | step front behind expands =>
    have whole := Leftmost.step (read ++ front) (behind ++ rest) expands
    simpa only [ofWord_append, List.append_assoc, List.cons_append] using whole

theorem Yields.context (yields : Yields alternatives form other) (read : List K) (rest : Form K) :
    Yields alternatives (ofWord read ++ (form ++ rest)) (ofWord read ++ (other ++ rest)) :=
  ReflTransGen.lift (p := Leftmost alternatives) (fun form => ofWord read ++ (form ++ rest))
    (fun _ _ step => Leftmost.context step read rest) _ _ yields

theorem Yields.append (yields : Yields alternatives form other) (rest : Form K) :
    Yields alternatives (form ++ rest) (other ++ rest) :=
  yields.context [] rest

/-- Behind what was read a derivation goes on. -/
theorem Yields.trans_behind {read : List K} {middle : Form K}
    (first : Yields alternatives form (ofWord read ++ middle))
    (later : Yields alternatives middle other) :
    Yields alternatives form (ofWord read ++ other) := by
  have behind := later.context read []
  simp only [List.append_nil] at behind
  exact first.trans behind

theorem leftmost_head {clause : Clause K} {expansion : Form K}
    (expands : clause.Expands alternatives expansion) (rest : Form K) :
    Leftmost alternatives (clause :: rest) (expansion ++ rest) :=
  .step [] rest expands

/-- A single clause is expanded first. -/
theorem Yields.of_expands {clause : Clause K} {expansion : Form K}
    (expands : clause.Expands alternatives expansion)
    (yields : Yields alternatives expansion form) : Yields alternatives [clause] form := by
  have step := leftmost_head expands []
  rw [List.append_nil] at step
  exact .head step yields

/-- A sequence can be taken apart at once. -/
theorem Yields.of_sequence {items : Form K} (yields : Yields alternatives [.sequence items] form)
    (other : form ≠ [.sequence items]) : Yields alternatives items form := by
  rcases ReflTransGen.cases_head yields with same | ⟨next, step, later⟩
  · exact absurd same.symm other
  · generalize whole : [Clause.sequence items] = before at step
    cases step with
    | step read rest expands =>
      cases read with
      | nil =>
        obtain ⟨rfl, rfl⟩ := List.cons.inj whole
        cases expands
        simpa using later
      | cons kind read => cases whole

/-! ### What is derived from a clause -/

/-- Every word of a clause is derived from it. -/
theorem yields_of_derives {clause : Clause K} {word : List K}
    (derives : Clause.Derives alternatives clause word) :
    Yields alternatives [clause] (ofWord word) := by
  -- A form that is read is none that still begins with a sequence.
  have read (word : List K) (items : Form K) : ofWord word ≠ [.sequence items] := by
    cases word <;> simp
  induction derives with
  | terminal => exact .refl
  | rule member _ ih => exact .of_expands (.rule member) (ih.of_sequence (read _ _))
  | nil => exact .of_expands (.sequence []) .refl
  | cons _ _ ih ih' =>
    rw [ofWord_append]
    exact .of_expands (.sequence _) ((ih.append _).trans_behind (ih'.of_sequence (read _ _)))
  | choice member _ ih => exact .of_expands (.choice member) ih
  | stop => exact .of_expands (.stop _) .refl
  | more _ _ ih ih' =>
    rw [ofWord_append]
    exact .of_expands (.more _) ((ih.append _).trans_behind ih')
  | oneOrMore _ _ ih ih' =>
    rw [ofWord_append]
    exact .of_expands (.oneOrMore _) ((ih.append _).trans_behind ih')
  | absent => exact .of_expands (.absent _) .refl
  | present _ ih => exact .of_expands (.present _) ih
  | group _ ih => exact .of_expands (.group _ _) ih

/-! ### What can be put in front -/

/-- A form that begins with the target has a leftmost derivation from the clause. -/
def Fronts (alternatives : String → List (List (Clause K))) (clause target : Clause K) : Prop :=
  ∃ rest, Yields alternatives [clause] (target :: rest)

section Fronts

variable {clause inner target : Clause K}

theorem Fronts.refl (clause : Clause K) : Fronts alternatives clause clause := ⟨[], .refl⟩

/-- What is put in front of the first clause of an expansion is put in front. -/
theorem Fronts.of_head (fronts : Fronts alternatives inner target) {others : Form K}
    (expands : clause.Expands alternatives (inner :: others)) :
    Fronts alternatives clause target := by
  obtain ⟨rest, yields⟩ := fronts
  exact ⟨rest ++ others, .of_expands expands (yields.append others)⟩

theorem Fronts.of_sequence {items : List (Clause K)}
    (fronts : Fronts alternatives (.sequence items) target)
    (plain : ∀ listed, target ≠ .sequence listed) :
    ∃ rest, Yields alternatives items (target :: rest) := by
  obtain ⟨rest, yields⟩ := fronts
  refine ⟨rest, yields.of_sequence fun same => ?_⟩
  exact plain items (List.cons.inj same).1

theorem Fronts.of_rule {name : String} {clauses : List (Clause K)}
    (fronts : Fronts alternatives (.sequence clauses) target)
    (plain : ∀ listed, target ≠ .sequence listed) (member : clauses ∈ alternatives name) :
    Fronts alternatives (.rule name) target := by
  obtain ⟨rest, yields⟩ := fronts.of_sequence plain
  exact ⟨rest, .of_expands (.rule member) yields⟩

/-- Items with the empty word can be left out in front. -/
theorem Fronts.of_behind {items : List (Clause K)}
    (fronts : Fronts alternatives (.sequence items) target)
    (plain : ∀ listed, target ≠ .sequence listed)
    (nothing : Clause.Derives alternatives clause []) :
    Fronts alternatives (.sequence (clause :: items)) target := by
  obtain ⟨rest, yields⟩ := fronts.of_sequence plain
  have first := (yields_of_derives nothing).append items
  exact ⟨rest, .of_expands (.sequence _) (first.trans yields)⟩

end Fronts

/-- A kind that a clause can begin with is put in front by a derivation. -/
theorem fronts_terminal {empty : String → Bool}
    (sound : ∀ name, empty name = true → Clause.Derives alternatives (.rule name) [])
    {clause : Clause K} {kind : K} (begins : Clause.Begins alternatives empty clause kind) :
    Fronts alternatives clause (.terminal kind) := by
  have plain (listed : List (Clause K)) : Clause.terminal kind ≠ .sequence listed := by simp
  induction begins with
  | terminal kind => exact .refl _
  | rule member _ ih => exact (ih plain).of_rule plain member
  | here _ ih => exact (ih plain).of_head (.sequence _)
  | behind nothing _ ih =>
    exact (ih plain).of_behind plain (Clause.derives_nil_of_nullable sound _ nothing)
  | choice among _ ih => exact (ih plain).of_head (.choice among)
  | zeroOrMore _ ih => exact (ih plain).of_head (.more _)
  | oneOrMore _ ih => exact (ih plain).of_head (.oneOrMore _)
  | optional _ ih => exact (ih plain).of_head (.present _)
  | group _ ih => exact (ih plain).of_head (.group _ _)

end Form

end Lookahead
