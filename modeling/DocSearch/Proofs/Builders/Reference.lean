import DocSearch.Argument.Builders

/-! # A reference for builders at work

Steps on named builders are compared with a reference that knows no order of creation and no store,
only what each name stands for. A call that adds appends to one list the document of each clause at
its moment, and stops at the first that has none; every other step changes one builder or nothing. -/

namespace DocSearch

/-! ## One call that adds -/

namespace Compound

/-- The builder with documents at the end of one list. -/
def extend (c : Compound) (occur : Occur) (documents : List Document) : Compound :=
  match occur with
  | .must => { c with must := c.must ++ documents }
  | .mustNot => { c with mustNot := c.mustNot ++ documents }
  | .should => { c with should := c.should ++ documents }
  | .filter => { c with filter := c.filter ++ documents }

theorem extend_nil (c : Compound) (occur : Occur) : c.extend occur [] = c := by
  cases occur <;> simp [extend]

theorem extend_append (c : Compound) (occur : Occur) (d : Document) (ds : List Document) :
    (c.append occur d).extend occur ds = c.extend occur (d :: ds) := by
  cases occur <;> simp [extend, append]

theorem clauses_extend (c : Compound) (occur p : Occur) (ds : List Document) :
    (c.extend occur ds).clauses p = if occur = p then c.clauses p ++ ds else c.clauses p := by
  cases occur <;> cases p <;> rfl

theorem clauses_prefix_extend (c : Compound) (occur p : Occur) (ds : List Document) :
    c.clauses p <+: (c.extend occur ds).clauses p := by
  rw [clauses_extend]
  split
  · exact List.prefix_append ..
  · exact List.prefix_refl _

/-- The list under a heading of a rendered builder. -/
def listed (d : Document) (occur : Occur) : List Value :=
  match Entries.get? operator d with
  | some (.object body) =>
    match Entries.get? occur.key body with
    | some (.list items) => items
    | _ => []
  | _ => []

theorem get?_heading_append (c : Compound) (occur p : Occur) (rest : Document) :
    Entries.get? p.key (c.heading occur ++ rest) = if occur = p ∧ c.clauses occur ≠ []
      then some (.list ((c.clauses occur).map .object)) else Entries.get? p.key rest := by
  unfold heading
  by_cases hc : c.clauses occur = []
  · simp [hc]
  · have he : (c.clauses occur).isEmpty = false := by simpa using hc
    rw [he, if_neg Bool.false_ne_true, List.singleton_append, Entries.get?_cons]
    by_cases hp : occur = p
    · subst hp
      simp [hc]
    · have hk : p.key ≠ occur.key := by cases occur <;> cases p <;> simp_all [Occur.key]
      simp [hp, hk]

theorem get?_minimumEntry (c : Compound) (p : Occur) : Entries.get? p.key c.minimumEntry = none := by
  unfold minimumEntry
  split
  · cases p <;> simp [Entries.get?_cons, Occur.key] <;> rfl
  · rfl

theorem listed_render (c : Compound) (occur : Occur) :
    listed c.render occur = (c.clauses occur).map .object := by
  rw [listed, render, Entries.get?_cons, if_pos rfl]
  simp only [Occur.all, List.flatMap_cons, List.flatMap_nil, List.append_nil, List.append_assoc,
    get?_heading_append, get?_minimumEntry]
  by_cases hc : c.clauses occur = [] <;> cases occur <;> simp [hc]

end Compound

/-- A call that adds `documents` for its first clauses: each is what its clause renders to once those
before it are appended. A fault is that of the first clause without a document; there is one unless
all clauses have theirs. -/
structure Adds {α : Type} (documentOf : Compound → α → Except Fault Document) (c : Compound)
    (occur : Occur) (xs : List α) (documents : List Document) (fault : Option Fault) : Prop where
  length_le : documents.length ≤ xs.length
  document : ∀ (i : Nat) (h : i < documents.length),
    documentOf (c.extend occur (documents.take i)) xs[i] = .ok documents[i]
  stop : match fault with
    | none => documents.length = xs.length
    | some f => ∃ h : documents.length < xs.length,
      documentOf (c.extend occur documents) xs[documents.length] = .error f

namespace Adds

variable {α : Type} {documentOf : Compound → α → Except Fault Document} {c : Compound}
  {occur : Occur} {x : α} {xs : List α} {fault : Option Fault}

theorem nil_iff {documents : List Document} :
    Adds documentOf c occur [] documents fault ↔ documents = [] ∧ fault = none := by
  constructor
  · rintro ⟨hl, _, hs⟩
    refine ⟨List.length_eq_zero_iff.mp (Nat.le_zero.mp hl), ?_⟩
    cases fault with
    | none => rfl
    | some f =>
      obtain ⟨h, _⟩ := hs
      exact absurd h (Nat.not_lt_zero _)
  · rintro ⟨rfl, rfl⟩
    exact ⟨Nat.le_refl _, fun i h => absurd h (Nat.not_lt_zero i), rfl⟩

/-- The first clause has no document. -/
theorem nil_iff_of_error {f : Fault} (hx : documentOf c x = .error f) {documents : List Document} :
    Adds documentOf c occur (x :: xs) documents fault ↔ documents = [] ∧ fault = some f := by
  constructor
  · rintro ⟨_, hd, hs⟩
    cases documents with
    | cons d ds =>
      have h := hd 0 (Nat.zero_lt_succ _)
      rw [List.take_zero, Compound.extend_nil, List.getElem_cons_zero, hx] at h
      cases h
    | nil =>
      cases fault with
      | none => cases hs
      | some g =>
        obtain ⟨_, h⟩ := hs
        rw [Compound.extend_nil] at h
        have h' := hx.symm.trans h
        cases h'
        exact ⟨rfl, rfl⟩
  · rintro ⟨rfl, rfl⟩
    refine ⟨Nat.zero_le _, fun i h => absurd h (Nat.not_lt_zero i), Nat.zero_lt_succ _, ?_⟩
    rw [Compound.extend_nil]
    exact hx

/-- The first clause has a document, and the rest is added behind it. -/
theorem cons_iff_of_ok {d : Document} (hx : documentOf c x = .ok d) {documents : List Document} :
    Adds documentOf c occur (x :: xs) documents fault ↔ ∃ ds, documents = d :: ds ∧
      Adds documentOf (c.append occur d) occur xs ds fault := by
  constructor
  · rintro ⟨hl, hd, hs⟩
    cases documents with
    | nil =>
      cases fault with
      | none => cases hs
      | some g =>
        obtain ⟨_, h⟩ := hs
        rw [Compound.extend_nil] at h
        cases hx.symm.trans h
    | cons e ds =>
      have h := hd 0 (Nat.zero_lt_succ _)
      rw [List.take_zero, Compound.extend_nil] at h
      cases hx.symm.trans h
      refine ⟨ds, rfl, Nat.le_of_succ_le_succ hl, fun i hi => ?_, ?_⟩
      · rw [Compound.extend_append]
        exact hd (i + 1) (Nat.succ_lt_succ hi)
      · cases fault with
        | none => exact Nat.succ.inj hs
        | some g =>
          obtain ⟨hi, h⟩ := hs
          refine ⟨Nat.lt_of_succ_lt_succ hi, ?_⟩
          rw [Compound.extend_append]
          exact h
  · rintro ⟨ds, rfl, hl, hd, hs⟩
    refine ⟨Nat.succ_le_succ hl, fun i hi => ?_, ?_⟩
    · cases i with
      | zero =>
        rw [List.take_zero, Compound.extend_nil]
        exact hx
      | succ i =>
        have h := hd i (Nat.lt_of_succ_lt_succ hi)
        rw [Compound.extend_append] at h
        exact h
    · cases fault with
      | none => exact congrArg Nat.succ hs
      | some g =>
        obtain ⟨hi, h⟩ := hs
        rw [Compound.extend_append] at h
        exact ⟨Nat.succ_lt_succ hi, h⟩

end Adds

/-! ## The reference -/

/-- What each name stands for. -/
abbrev Reference := String → Option Compound

namespace Reference

/-- No name stands for anything. -/
def empty : Reference := fun _ => none

def update (s : Reference) (name : String) (c : Compound) : Reference :=
  fun n => if n = name then some c else s n

/-- The document of a clause at a moment of a call, with the receiving builder as it stands at that
moment and every other as it stood before the call. -/
def documentOf (s : Reference) (receiver : String) (now : Compound) :
    NamedAddend → Except Fault Document
  | .given a => Clause.documentOf a
  | .holding draw => Clause.documentOf (draw now)
  | .builder name =>
    if name = receiver then .ok now.render
    else match s name with
      | some c => .ok c.render
      | none => .error (.missingKey name)

/-- The name that a clause refers to, if nothing has it. -/
def unknown? (s : Reference) (receiver : String) : NamedAddend → Option String
  | .builder name => if name ≠ receiver ∧ s name = none then some name else none
  | _ => none

/-- One step of the reference, and its fault. -/
inductive Steps : Reference → Builders.Step → Reference → Option Fault → Prop
  | create {s : Reference} {name : String} {count : Argument} {n : Number} :
      Setting.minimumShouldMatch.accept count = .ok n →
      Steps s (.create name count) (s.update name { minimum := n }) none
  | createFails {s : Reference} {name : String} {count : Argument} {f : Fault} :
      Setting.minimumShouldMatch.accept count = .error f →
      Steps s (.create name count) s (some f)
  | add {s : Reference} {name : String} {occur : Occur} {xs : List NamedAddend} {c : Compound}
      {documents : List Document} {fault : Option Fault} : s name = some c →
      xs.findSome? (s.unknown? name) = none →
      Adds (s.documentOf name) c occur xs documents fault →
      Steps s (.add name occur xs) (s.update name (c.extend occur documents)) fault
  | addUnknown {s : Reference} {name other : String} {occur : Occur} {xs : List NamedAddend}
      {c : Compound} : s name = some c → xs.findSome? (s.unknown? name) = some other →
      Steps s (.add name occur xs) s (some (.missingKey other))
  | setMinimum {s : Reference} {name : String} {count : Argument} {c : Compound} {n : Number} :
      s name = some c → Setting.minimumShouldMatch.accept count = .ok n →
      Steps s (.setMinimum name count) (s.update name { c with minimum := n }) none
  | setMinimumFails {s : Reference} {name : String} {count : Argument} {c : Compound} {f : Fault} :
      s name = some c → Setting.minimumShouldMatch.accept count = .error f →
      Steps s (.setMinimum name count) s (some f)
  | look {s : Reference} {name : String} {c : Compound} : s name = some c →
      Steps s (.look name) s none
  | missing {s : Reference} {step : Builders.Step} : (∀ name count, step ≠ .create name count) →
      s step.target = none → Steps s step s (some (.missingKey step.target))

/-- Steps one after the other, and the fault of each. -/
inductive Runs : Reference → List Builders.Step → Reference → List (Option Fault) → Prop
  | nil {s : Reference} : Runs s [] s []
  | cons {s t u : Reference} {step : Builders.Step} {rest : List Builders.Step} {fault : Option Fault}
      {faults : List (Option Fault)} : Steps s step t fault → Runs t rest u faults →
      Runs s (step :: rest) u (fault :: faults)

theorem exists_adds {α : Type} (documentOf : Compound → α → Except Fault Document) (c : Compound)
    (occur : Occur) (xs : List α) :
    ∃ documents fault, Adds documentOf c occur xs documents fault := by
  induction xs generalizing c with
  | nil => exact ⟨[], none, Adds.nil_iff.mpr ⟨rfl, rfl⟩⟩
  | cons x xs ih =>
    cases hx : documentOf c x with
    | error f => exact ⟨[], some f, (Adds.nil_iff_of_error hx).mpr ⟨rfl, rfl⟩⟩
    | ok d =>
      obtain ⟨ds, fault, h⟩ := ih (c.append occur d)
      exact ⟨d :: ds, fault, (Adds.cons_iff_of_ok hx).mpr ⟨ds, rfl, h⟩⟩

/-- The reference has an answer to every step. -/
theorem exists_steps (s : Reference) (step : Builders.Step) : ∃ t fault, Steps s step t fault := by
  cases step with
  | create name count =>
    cases hn : Setting.minimumShouldMatch.accept count with
    | error f => exact ⟨_, _, .createFails hn⟩
    | ok n => exact ⟨_, _, .create hn⟩
  | add name occur xs =>
    cases hc : s name with
    | none => exact ⟨_, _, .missing (fun _ _ => nofun) hc⟩
    | some c =>
      cases hu : xs.findSome? (s.unknown? name) with
      | some other => exact ⟨_, _, .addUnknown hc hu⟩
      | none =>
        obtain ⟨documents, fault, h⟩ := exists_adds (s.documentOf name) c occur xs
        exact ⟨_, _, .add hc hu h⟩
  | setMinimum name count =>
    cases hc : s name with
    | none => exact ⟨_, _, .missing (fun _ _ => nofun) hc⟩
    | some c =>
      cases hn : Setting.minimumShouldMatch.accept count with
      | error f => exact ⟨_, _, .setMinimumFails hc hn⟩
      | ok n => exact ⟨_, _, .setMinimum hc hn⟩
  | look name =>
    cases hc : s name with
    | none => exact ⟨_, _, .missing (fun _ _ => nofun) hc⟩
    | some c => exact ⟨_, _, .look hc⟩

/-- A step changes nothing but the builder that it works on. -/
theorem Steps.frame {s t : Reference} {step : Builders.Step} {fault : Option Fault} {name : String}
    (h : Steps s step t fault) (hn : step.target ≠ name) : t name = s name := by
  have other (c : Compound) : s.update step.target c name = s name := if_neg (Ne.symm hn)
  cases h with
  | create | add | setMinimum => exact other _
  | createFails | addUnknown | setMinimumFails | look | missing => rfl

/-- Unless a new builder takes its place, a builder's lists only grow at the end. -/
theorem Steps.grows {s t : Reference} {step : Builders.Step} {fault : Option Fault} {name : String}
    {c : Compound} (h : Steps s step t fault) (hc : s name = some c)
    (hk : ∀ count, step = .create name count → fault ≠ none) :
    ∃ d, t name = some d ∧ ∀ occur, c.clauses occur <+: d.clauses occur := by
  have same : ∃ d, s name = some d ∧ ∀ occur, c.clauses occur <+: d.clauses occur :=
    ⟨c, hc, fun _ => List.prefix_refl _⟩
  by_cases hn : step.target = name
  · subst hn
    cases h with
    | create => exact absurd rfl (hk _ rfl)
    | @add name occur xs c' documents fault hs _ _ =>
      cases hs.symm.trans hc
      exact ⟨_, if_pos rfl, fun p => c.clauses_prefix_extend occur p documents⟩
    | @setMinimum name count c' n hs _ =>
      cases hs.symm.trans hc
      exact ⟨_, if_pos rfl, fun p => by cases p <;> exact List.prefix_refl _⟩
    | createFails | addUnknown | setMinimumFails | look | missing => exact same
  · rw [h.frame hn]
    exact same

end Reference
end DocSearch
