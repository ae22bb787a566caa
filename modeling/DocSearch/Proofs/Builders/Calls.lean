import DocSearch.Proofs.Builders.Reference
import DocSearch.Proofs.Outcome

/-! # What a builder holds, and what its calls report

A call that adds clauses renders them there and then. So nothing gets into a builder that did not
render in the call that added it, and a clause that does not render makes the very call fail that is
given it. -/

namespace DocSearch

namespace Compound

/-! ## One call -/

/-- Adding comes to what it should. -/
theorem add_eq_of_adds {c : Compound} {occur : Occur} {xs : List Addend} {documents : List Document}
    {fault : Option Fault} (h : Adds renderAddend c occur xs documents fault) :
    c.add occur xs = (c.extend occur documents, fault) := by
  induction xs generalizing c documents with
  | nil =>
    obtain ⟨rfl, rfl⟩ := Adds.nil_iff.mp h
    rw [extend_nil]
    rfl
  | cons x xs ih =>
    rw [add]
    cases hx : c.renderAddend x with
    | error f =>
      obtain ⟨rfl, rfl⟩ := (Adds.nil_iff_of_error hx).mp h
      rw [extend_nil]
    | ok d =>
      obtain ⟨ds, rfl, hds⟩ := (Adds.cons_iff_of_ok hx).mp h
      rw [← extend_append]
      exact ih hds

theorem exists_call_add (c : Compound) (occur : Occur) (xs : List Addend) :
    ∃ documents fault, Adds renderAddend c occur xs documents fault ∧
      c.call (.add occur xs) = (c.extend occur documents, fault) := by
  obtain ⟨documents, fault, h⟩ := Reference.exists_adds renderAddend c occur xs
  exact ⟨documents, fault, h, add_eq_of_adds h⟩

/-- A call that is given a clause without a document fails, and keeps those in front of the first
such clause. -/
theorem call_add_reports {c : Compound} {occur : Occur} {xs : List Addend} {x : Addend}
    (hm : x ∈ xs) (hx : ∀ now : Compound, ∃ f, now.renderAddend x = .error f) :
    ∃ documents fault, Adds renderAddend c occur xs documents (some fault) ∧
      c.call (.add occur xs) = (c.extend occur documents, some fault) := by
  obtain ⟨documents, fault, h, hcall⟩ := exists_call_add c occur xs
  cases fault with
  | some f => exact ⟨documents, f, h, hcall⟩
  | none =>
    have hl : documents.length = xs.length := h.stop
    obtain ⟨i, hi, rfl⟩ := List.getElem_of_mem hm
    obtain ⟨f, hf⟩ := hx (c.extend occur (documents.take i))
    rw [h.document i (hl ▸ hi)] at hf
    cases hf

theorem clauses_setMinimum (c : Compound) (count : Argument) (p : Occur) :
    (c.call (.setMinimum count)).1.clauses p = c.clauses p := by
  unfold call
  dsimp only
  cases hs : c.setMinimum count with
  | error f => rfl
  | ok c' =>
    obtain ⟨n, _, h⟩ := Outcome.bind_eq_ok hs
    cases h
    cases p <;> rfl

/-- The call gives the heading the document, as that of one of its clauses. -/
def Gives (c : Compound) (k : Call) (occur : Occur) (d : Document) : Prop :=
  ∃ xs documents fault, k = .add occur xs ∧ Adds renderAddend c occur xs documents fault ∧
    d ∈ documents

theorem mem_clauses_call {c : Compound} {k : Call} {p : Occur} {d : Document}
    (h : d ∈ (c.call k).1.clauses p) : d ∈ c.clauses p ∨ c.Gives k p d := by
  cases k with
  | setMinimum count =>
    rw [clauses_setMinimum] at h
    exact .inl h
  | add occur xs =>
    obtain ⟨documents, fault, ha, hcall⟩ := exists_call_add c occur xs
    rw [hcall, clauses_extend] at h
    split at h
    · rename_i hp
      subst hp
      rcases List.mem_append.mp h with h | h
      · exact .inl h
      · exact .inr ⟨xs, documents, fault, rfl, ha, h⟩
    · exact .inl h

/-! ## Any calls -/

/-- The builder after calls, those that failed included. -/
def run (c : Compound) : List Call → Compound
  | [] => c
  | k :: rest => run (c.call k).1 rest

/-- What a heading holds in the end was there, or one of the calls gave it. -/
theorem mem_clauses_run {calls : List Call} {c : Compound} {p : Occur} {d : Document}
    (h : d ∈ (c.run calls).clauses p) : d ∈ c.clauses p ∨
      ∃ before k after, calls = before ++ k :: after ∧ (c.run before).Gives k p d := by
  induction calls generalizing c with
  | nil => exact .inl h
  | cons k calls ih =>
    rcases ih h with h | ⟨before, k', after, rfl, hg⟩
    · rcases mem_clauses_call h with h | hg
      · exact .inl h
      · exact .inr ⟨[], k, calls, rfl, hg⟩
    · exact .inr ⟨k :: before, k', after, rfl, hg⟩

theorem clauses_new {count : Argument} {start : Compound} (h : new count = .ok start) (p : Occur) :
    start.clauses p = [] := by
  obtain ⟨n, _, h⟩ := Outcome.bind_eq_ok h
  cases h
  cases p <;> rfl

/-- A builder holds nothing but documents that its calls gave it. -/
theorem exists_gives {count : Argument} {start : Compound} (hn : new count = .ok start)
    {calls : List Call} {p : Occur} {d : Document} (h : d ∈ (start.run calls).clauses p) :
    ∃ before k after, calls = before ++ k :: after ∧ (start.run before).Gives k p d := by
  rcases mem_clauses_run h with h | h
  · rw [clauses_new hn] at h
    cases h
  · exact h

end Compound
end DocSearch
