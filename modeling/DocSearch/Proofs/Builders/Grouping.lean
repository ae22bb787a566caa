import DocSearch.Proofs.Builders.Calls

/-! # Calls taken apart, and calls in another order

Clauses may be handed over in one call or in several. A call renders them one at a time, so the
second half of its clauses finds the builder as a second call would find it, also when the builder
is among them. If no clause is the builder or holds it, what a call does to its part of the builder
depends on that part alone, and calls on different parts may change places. -/

namespace DocSearch

/-- The clause is not the builder itself, nor does it hold the builder. -/
def Addend.Foreign : Addend → Prop
  | .given _ => True
  | .receiver | .holding _ => False

namespace Compound

variable {b c d : Compound}

/-! ## One call for two -/

/-- A call after another, made only if the first succeeded. -/
def andThen (first : Compound × Option Fault) (k : Call) : Compound × Option Fault :=
  match first with
  | (c, none) => c.call k
  | failed => failed

theorem add_append (c : Compound) (occur : Occur) (xs ys : List Addend) :
    c.add occur (xs ++ ys) = andThen (c.add occur xs) (.add occur ys) := by
  induction xs generalizing c with
  | nil => rfl
  | cons x xs ih =>
    rw [List.cons_append, add, add]
    cases c.renderAddend x with
    | error f => rfl
    | ok d => exact ih (c.append occur d)

/-! ## What a call looks at -/

/-- The heading that a call adds to, or none if it sets the least number of matches. -/
def Call.part : Call → Option Occur
  | .add occur _ => some occur
  | .setMinimum _ => none

def Call.Foreign : Call → Prop
  | .add _ xs => ∀ x ∈ xs, x.Foreign
  | .setMinimum _ => True

/-- Foreign clauses render to the same documents, up to the same fault, whatever they are added
to. -/
theorem exists_extend_of_foreign (occur : Occur) {xs : List Addend} (h : ∀ x ∈ xs, x.Foreign) :
    ∃ documents fault, ∀ c : Compound, c.add occur xs = (c.extend occur documents, fault) := by
  induction xs with
  | nil => exact ⟨[], none, fun c => by rw [extend_nil]; rfl⟩
  | cons x xs ih =>
    obtain ⟨hx, hxs⟩ := List.forall_mem_cons.mp h
    match x, hx with
    | .given a, _ =>
      cases ha : Clause.documentOf a with
      | error f => exact ⟨[], some f, fun c => by simp only [add, renderAddend, ha, extend_nil]⟩
      | ok document =>
        obtain ⟨documents, fault, hadd⟩ := ih hxs
        refine ⟨document :: documents, fault, ?_⟩
        intro c
        simp only [add, renderAddend, ha, hadd, extend_append]

/-- Two builders hold the same in a part. -/
def Agree (part : Option Occur) (c d : Compound) : Prop :=
  match part with
  | some p => c.clauses p = d.clauses p
  | none => c.minimum = d.minimum

namespace Agree

variable {part : Option Occur}

theorem refl (part : Option Occur) (c : Compound) : Agree part c c := by
  cases part <;> rfl

theorem symm (h : Agree part c d) : Agree part d c := by
  cases part <;> exact Eq.symm h

theorem trans (h : Agree part b c) (h' : Agree part c d) : Agree part b d := by
  cases part <;> exact Eq.trans h h'

end Agree

theorem eq_of_agree (h : ∀ part, Agree part c d) : c = d := by
  have must : c.must = d.must := h (some .must)
  have mustNot : c.mustNot = d.mustNot := h (some .mustNot)
  have should : c.should = d.should := h (some .should)
  have filter : c.filter = d.filter := h (some .filter)
  have minimum : c.minimum = d.minimum := h none
  cases c
  cases d
  simp_all

theorem minimum_extend (c : Compound) (occur : Occur) (documents : List Document) :
    (c.extend occur documents).minimum = c.minimum := by
  cases occur <;> rfl

/-- A call leaves the other parts alone. -/
theorem agree_call_of_ne (c : Compound) {k : Call} {part : Option Occur} (h : k.part ≠ part) :
    Agree part (c.call k).1 c := by
  cases k with
  | setMinimum count =>
    cases part with
    | none => exact absurd rfl h
    | some p => exact clauses_setMinimum c count p
  | add occur xs =>
    obtain ⟨documents, fault, _, hcall⟩ := exists_call_add c occur xs
    rw [hcall]
    cases part with
    | none => exact minimum_extend c occur documents
    | some p =>
      have hp : occur ≠ p := fun hp => h (congrArg some hp)
      exact (clauses_extend c occur p documents).trans (if_neg hp)

/-- What a foreign call makes of its part depends on nothing else. -/
theorem agree_call {k : Call} (hk : k.Foreign) (h : Agree k.part c d) :
    Agree k.part (c.call k).1 (d.call k).1 := by
  cases k with
  | setMinimum count =>
    simp only [call, setMinimum]
    cases Setting.minimumShouldMatch.accept count with
    | error f => exact h
    | ok n => rfl
  | add occur xs =>
    obtain ⟨documents, fault, hadd⟩ := exists_extend_of_foreign occur hk
    have same : c.clauses occur = d.clauses occur := h
    show (c.add occur xs).1.clauses occur = (d.add occur xs).1.clauses occur
    rw [hadd c, hadd d, clauses_extend, clauses_extend, same]

/-- Whether a foreign call fails, and how, does not depend on the builder. -/
theorem fault_call {k : Call} (hk : k.Foreign) (c d : Compound) : (c.call k).2 = (d.call k).2 := by
  cases k with
  | setMinimum count =>
    simp only [call, setMinimum]
    cases Setting.minimumShouldMatch.accept count <;> rfl
  | add occur xs =>
    obtain ⟨documents, fault, hadd⟩ := exists_extend_of_foreign occur hk
    show (c.add occur xs).2 = (d.add occur xs).2
    rw [hadd c, hadd d]

/-! ## Calls in another order -/

/-- For one part of the builder, the calls on other parts may as well not be made. -/
theorem agree_run_filter {calls : List Call} (hk : ∀ k ∈ calls, k.Foreign) {part : Option Occur}
    (h : Agree part c d) :
    Agree part (c.run calls) (d.run (calls.filter fun k => k.part = part)) := by
  induction calls generalizing c d with
  | nil => exact h
  | cons k calls ih =>
    obtain ⟨hk, hcalls⟩ := List.forall_mem_cons.mp hk
    by_cases hp : k.part = part
    · subst hp
      rw [List.filter_cons_of_pos (by simp)]
      exact ih hcalls (agree_call hk h)
    · rw [List.filter_cons_of_neg (by simp [hp])]
      exact ih hcalls ((agree_call_of_ne c hp).trans h)

/-- The calls on each part are the same in both, in the same order. -/
def Interleaves (calls calls' : List Call) : Prop :=
  ∀ part, (calls.filter fun k => k.part = part) = calls'.filter fun k => k.part = part

theorem run_eq_of_interleaves {calls calls' : List Call} (hk : ∀ k ∈ calls, k.Foreign)
    (hk' : ∀ k ∈ calls', k.Foreign) (h : Interleaves calls calls') (c : Compound) :
    c.run calls = c.run calls' := by
  refine eq_of_agree fun part => ?_
  have left := agree_run_filter hk (Agree.refl part c)
  have right := agree_run_filter hk' (Agree.refl part c)
  rw [h part] at left
  exact left.trans right.symm

theorem interleaves_swap {k l : Call} (h : k.part ≠ l.part) : Interleaves [k, l] [l, k] := by
  intro part
  by_cases hk : k.part = part
  · have hl : l.part ≠ part := fun hl => h (hk.trans hl.symm)
    simp [hk, hl]
  · simp [List.filter_cons, hk]

theorem andThen_eq_ok {k l : Call} (h : andThen (c.call k) l = (d, none)) :
    (c.call k).2 = none ∧ ((c.call k).1.call l).2 = none ∧ c.run [k, l] = d := by
  rw [run, run, run]
  match hc : c.call k with
  | (_, some _) => rw [hc] at h; cases h
  | (c', none) =>
    rw [hc] at h
    exact ⟨rfl, congrArg Prod.snd h, congrArg Prod.fst h⟩

/-- One call leaves the builder and raises the fault of two that are handed its clauses one part
after the other. Successful calls on different parts may change places unless a clause is the
builder or holds it: they lead to the same builder, and so to the same document. That goes for any
calls whose order is kept within each part, those that fail included. -/
theorem grouped_and_interleaved (c : Compound) :
    (∀ occur xs ys, c.call (.add occur (xs ++ ys)) =
      andThen (c.call (.add occur xs)) (.add occur ys)) ∧
    (∀ k l d, k.Foreign → l.Foreign → k.part ≠ l.part → andThen (c.call k) l = (d, none) →
      andThen (c.call l) k = (d, none)) ∧
    ∀ calls calls', (∀ k ∈ calls, k.Foreign) → (∀ k ∈ calls', k.Foreign) →
      Interleaves calls calls' → c.run calls = c.run calls' := by
  refine ⟨add_append c, ?_, fun calls calls' hk hk' h => run_eq_of_interleaves hk hk' h c⟩
  intro k l d hk hl hp h
  obtain ⟨hfk, hfl, rfl⟩ := andThen_eq_ok h
  have first : c.call l = ((c.call l).1, none) := by
    rw [← hfl, fault_call hl (c.call k).1 c]
  have second : (c.call l).1.call k = (c.run [l, k], none) := by
    rw [← hfk, fault_call hk c (c.call l).1]
    rfl
  have same : c.run [l, k] = c.run [k, l] :=
    run_eq_of_interleaves (by simp [hk, hl]) (by simp [hk, hl]) (interleaves_swap (Ne.symm hp)) c
  rw [first, ← same]
  exact second

/-- A search under `should`, and what is no clause under `must`. -/
def searchCall : Call :=
  .add .should [.given (.made (.clause (.leaf (.text ⟨⟨.single "matrx"⟩, ⟨.single "title"⟩, none,
    none⟩))))]

def failingCall : Call := .add .must [.given .null]

/-- The least number of matches may be set before or after the search is added, and a call that
fails between them changes nothing. -/
theorem search_and_minimum_in_either_order :
    (∃ d : Compound, d.should.length = 1 ∧
      andThen (({} : Compound).call searchCall) (.setMinimum (.int 1)) = (d, none) ∧
      andThen (({} : Compound).call (.setMinimum (.int 1))) searchCall = (d, none)) ∧
    (({} : Compound).call failingCall).2 ≠ none ∧
    ({} : Compound).run [searchCall, failingCall, .setMinimum (.int 1)] =
      ({} : Compound).run [.setMinimum (.int 1), failingCall, searchCall] := by
  have search : searchCall.Foreign := by simp [searchCall, Call.Foreign, Addend.Foreign]
  have failing : failingCall.Foreign := by simp [failingCall, Call.Foreign, Addend.Foreign]
  have minimum : (Call.setMinimum (.int 1)).Foreign := trivial
  have laws := grouped_and_interleaved {}
  refine ⟨⟨_, rfl, rfl, laws.2.1 _ _ _ search minimum nofun rfl⟩, nofun, ?_⟩
  refine laws.2.2 _ _ (by simp [search, failing, minimum]) (by simp [search, failing, minimum]) ?_
  intro part
  obtain _ | _ | _ | _ | _ := part <;> rfl

end Compound
end DocSearch
