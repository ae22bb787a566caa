import DocSearch.Proofs.Builders.Grouping
import Mathlib.Algebra.Group.Nat.Defs

/-! # A builder added to itself

A builder that is handed to itself is rendered as it stands at that moment. What is appended is a
copy: all that the builder held, one level further down, and nothing of what comes later. So each
such addition doubles the clauses of its document and puts one more level around them, whichever
headings are added to and however the additions are spread over calls. -/

namespace DocSearch
namespace Compound

/-! ## Measures of a clause's document -/

def isHeading (key : String) : Bool := Occur.all.any fun occur => occur.key == key

mutual
/-- A number for the document of a clause: `node` of those of the clauses that it holds under its
headings. Only a compound document holds some. -/
def measure (node : List Nat → Nat) : Value → Nat
  | .object [(key, .object body)] =>
    if key = operator then node (bodyMeasures node body) else node []
  | _ => node []

def bodyMeasures (node : List Nat → Nat) : Document → List Nat
  | [] => []
  | (key, v) :: rest =>
    (if isHeading key then listedMeasures node v else []) ++ bodyMeasures node rest

def listedMeasures (node : List Nat → Nat) : Value → List Nat
  | .list items => itemMeasures node items
  | _ => []

def itemMeasures (node : List Nat → Nat) : List Value → List Nat
  | [] => []
  | v :: rest => measure node v :: itemMeasures node rest
end

/-- The clauses of a document, itself and those it holds at any depth, as often as they occur. -/
def count : Value → Nat := measure fun counts => 1 + counts.foldr (· + ·) 0

/-- The levels of clauses in a document, one for a leaf. -/
def depth : Value → Nat := measure fun depths => 1 + depths.foldr max 0

section
variable (node : List Nat → Nat)

theorem itemMeasures_eq_map (items : List Value) :
    itemMeasures node items = items.map (measure node) := by
  induction items with
  | nil => rfl
  | cons v rest ih => rw [itemMeasures, ih, List.map_cons]

theorem bodyMeasures_append (d e : Document) :
    bodyMeasures node (d ++ e) = bodyMeasures node d ++ bodyMeasures node e := by
  induction d with
  | nil => rfl
  | cons entry rest ih => simp only [List.cons_append, bodyMeasures, ih, List.append_assoc]

theorem bodyMeasures_heading (c : Compound) (occur : Occur) :
    bodyMeasures node (c.heading occur) =
      (c.clauses occur).map fun d => measure node (.object d) := by
  have heading : isHeading occur.key = true := by cases occur <;> decide
  unfold Compound.heading
  split
  · rename_i empty
    rw [List.isEmpty_iff.mp empty]
    rfl
  · simp [bodyMeasures, heading, listedMeasures, itemMeasures_eq_map]

theorem bodyMeasures_minimumEntry (c : Compound) : bodyMeasures node c.minimumEntry = [] := by
  have heading : isHeading "minimumShouldMatch" = false := by decide
  unfold minimumEntry
  split
  · simp [bodyMeasures, heading]
  · rfl

theorem bodyMeasures_headings (c : Compound) (occurs : List Occur) :
    bodyMeasures node (occurs.flatMap c.heading) =
      occurs.flatMap fun p => (c.clauses p).map fun d => measure node (.object d) := by
  induction occurs with
  | nil => rfl
  | cons p rest ih =>
    rw [List.flatMap_cons, List.flatMap_cons, bodyMeasures_append, bodyMeasures_heading, ih]

/-- The numbers of the clauses that a builder holds. -/
def measures (c : Compound) : List Nat :=
  Occur.all.flatMap fun p => (c.clauses p).map fun d => measure node (.object d)

theorem measure_render (c : Compound) :
    measure node (.object c.render) = node (measures node c) := by
  rw [render, measure, if_pos rfl, bodyMeasures_append, bodyMeasures_minimumEntry, List.append_nil,
    bodyMeasures_headings, measures]

/-- The number of a clause that is appended comes among those of the others. -/
theorem exists_measures_append (c : Compound) (occur : Occur) (d : Document) :
    ∃ before after, measures node c = before ++ after ∧
      measures node (c.append occur d) = before ++ measure node (.object d) :: after := by
  let under (p : Occur) : List Nat := (c.clauses p).map fun d => measure node (.object d)
  cases occur with
  | must => exact ⟨under .must, under .mustNot ++ under .should ++ under .filter,
      by simp [measures, Occur.all, under], by simp [measures, Occur.all, clauses, append, under]⟩
  | mustNot => exact ⟨under .must ++ under .mustNot, under .should ++ under .filter,
      by simp [measures, Occur.all, under], by simp [measures, Occur.all, clauses, append, under]⟩
  | should => exact ⟨under .must ++ under .mustNot ++ under .should, under .filter,
      by simp [measures, Occur.all, under], by simp [measures, Occur.all, clauses, append, under]⟩
  | filter => exact ⟨under .must ++ under .mustNot ++ under .should ++ under .filter, [],
      by simp [measures, Occur.all, under], by simp [measures, Occur.all, clauses, append, under]⟩

end

theorem foldr_append {op : Nat → Nat → Nat} (assoc : ∀ k m n, op (op k m) n = op k (op m n))
    (zero : ∀ n, op 0 n = n) (xs ys : List Nat) :
    (xs ++ ys).foldr op 0 = op (xs.foldr op 0) (ys.foldr op 0) := by
  induction xs with
  | nil => simp [zero]
  | cons x xs ih => simp [ih, assoc]

theorem count_append (c : Compound) (occur : Occur) (d : Document) :
    count (.object (c.append occur d).render) = count (.object c.render) + count (.object d) := by
  obtain ⟨before, after, held, holds⟩ :=
    exists_measures_append (fun counts => 1 + counts.foldr (· + ·) 0) c occur d
  simp only [count, measure_render, held, holds, foldr_append Nat.add_assoc Nat.zero_add,
    List.foldr_cons]
  omega

theorem depth_append (c : Compound) (occur : Occur) (d : Document) :
    depth (.object (c.append occur d).render)
      = max (depth (.object c.render)) (depth (.object d) + 1) := by
  obtain ⟨before, after, held, holds⟩ :=
    exists_measures_append (fun depths => 1 + depths.foldr max 0) c occur d
  simp only [depth, measure_render, held, holds, foldr_append Nat.max_assoc Nat.zero_max,
    List.foldr_cons]
  omega

/-! ## Additions one by one -/

/-- The builder added to itself under each of the headings in turn. -/
def nest (c : Compound) : List Occur → Compound
  | [] => c
  | occur :: rest => (c.append occur c.render).nest rest

theorem nest_append (c : Compound) (before after : List Occur) :
    c.nest (before ++ after) = (c.nest before).nest after := by
  induction before generalizing c with
  | nil => rfl
  | cons occur rest ih => exact ih _

theorem count_nest (c : Compound) (additions : List Occur) :
    count (.object (c.nest additions).render)
      = 2 ^ additions.length * count (.object c.render) := by
  induction additions generalizing c with
  | nil => simp [nest]
  | cons occur rest ih =>
    rw [nest, ih, count_append, List.length_cons, Nat.pow_succ, ← Nat.two_mul, Nat.mul_assoc]

theorem depth_nest (c : Compound) (additions : List Occur) :
    depth (.object (c.nest additions).render)
      = depth (.object c.render) + additions.length := by
  induction additions generalizing c with
  | nil => rfl
  | cons occur rest ih =>
    rw [nest, ih, depth_append, List.length_cons]
    omega

/-- Later additions leave what is there in front. -/
theorem clauses_prefix_nest (c : Compound) (additions : List Occur) (p : Occur) :
    c.clauses p <+: (c.nest additions).clauses p := by
  induction additions generalizing c with
  | nil => exact List.prefix_refl _
  | cons occur rest ih =>
    have grown := clauses_prefix_extend c occur p [c.render]
    rw [← extend_append, extend_nil] at grown
    exact grown.trans (ih _)

theorem listed_prefix_nest (c : Compound) (additions : List Occur) (p : Occur) :
    listed c.render p <+: listed (c.nest additions).render p := by
  rw [listed_render, listed_render]
  exact (clauses_prefix_nest c additions p).map _

/-! ## Additions spread over calls -/

/-- Calls one after the other, as long as they succeed. -/
def attempt (c : Compound) (calls : List Call) : Compound × Option Fault :=
  calls.foldl andThen (c, none)

/-- The builder handed to itself a number of times in one call. -/
def selfCall (part : Occur × Nat) : Call := .add part.1 (.replicate part.2 .receiver)

theorem call_selfCall (c : Compound) (part : Occur × Nat) :
    c.call (selfCall part) = (c.nest (.replicate part.2 part.1), none) := by
  obtain ⟨occur, n⟩ := part
  show c.add occur (.replicate n .receiver) = _
  induction n generalizing c with
  | zero => rfl
  | succ n ih => exact ih (c.append occur c.render)

theorem attempt_selfCalls (c : Compound) (parts : List (Occur × Nat)) :
    attempt c (parts.map selfCall)
      = (c.nest (parts.flatMap fun part => .replicate part.2 part.1), none) := by
  induction parts generalizing c with
  | nil => rfl
  | cons part rest ih =>
    calc attempt c ((part :: rest).map selfCall)
      _ = (rest.map selfCall).foldl andThen (c.call (selfCall part)) := rfl
      _ = attempt (c.nest (.replicate part.2 part.1)) (rest.map selfCall) := by
        rw [call_selfCall]
        rfl
      _ = _ := by rw [ih, List.flatMap_cons, nest_append]

/-- A builder may be added to itself any number of times, in one call or in several, under any
headings. All calls succeed. The clauses of its document are doubled each time and its levels are
one more. Each addition appends the document that the builder had at that moment, and later ones
leave it there. -/
theorem self_additions_nest (c : Compound) (parts : List (Occur × Nat)) :
    let additions := parts.flatMap fun part => List.replicate part.2 part.1
    attempt c (parts.map selfCall) = (c.nest additions, none) ∧
    count (.object (c.nest additions).render)
      = 2 ^ additions.length * count (.object c.render) ∧
    depth (.object (c.nest additions).render)
      = depth (.object c.render) + additions.length ∧
    ∀ before occur after p,
      listed (c.nest before).render p <+: listed (c.nest (before ++ after)).render p ∧
      listed (c.nest before).render occur ++ [.object (c.nest before).render]
        <+: listed (c.nest (before ++ occur :: after)).render occur := by
  refine ⟨attempt_selfCalls c parts, count_nest c _, depth_nest c _, ?_⟩
  intro before occur after p
  constructor
  · rw [nest_append]
    exact listed_prefix_nest _ after p
  · rw [nest_append, nest]
    refine List.IsPrefix.trans ?_ (listed_prefix_nest _ after occur)
    simp [listed_render, clauses_append]

/-- An empty builder, added to itself under one heading and then under another. -/
theorem empty_nests_twice :
    let d : Compound := ({} : Compound).nest [.must, .filter]
    count (.object d.render) = 4 ∧ depth (.object d.render) = 3 := by
  have laws := self_additions_nest {} [(.must, 1), (.filter, 1)]
  exact ⟨laws.2.1, laws.2.2.1⟩

end Compound
end DocSearch
