import DocSearch.Proofs.Builders.Reference
import DocSearch.Proofs.Outcome

/-! # Builders follow their reference

A step of the store is the step of the reference on what the names stand for, and a run is a run of
the reference, fault by fault. What holds of every step of the reference then holds along every run:
a builder's lists only ever grow at the end, and no step shows in another builder. -/

namespace DocSearch

namespace Builders

/-! ## One step -/

/-- What the names of a store stand for. -/
def reference (store : Builders) : Reference := fun name => store.get? name

theorem set_eq (name : String) (c : Compound) (store : Builders) :
    store.set name c = Entries.set name c store := by
  induction store with
  | nil => rfl
  | cons entry rest ih =>
    obtain ⟨n, d⟩ := entry
    rw [set, Entries.set, ih]

theorem reference_set (name : String) (c : Compound) (store : Builders) :
    (store.set name c).reference = store.reference.update name c := by
  funext n
  unfold reference Reference.update
  rw [set_eq]
  split
  · rename_i h
    rw [h]
    exact Entries.get?_set_self name c store
  · rename_i h
    exact Entries.get?_set_of_ne h c store

variable {store : Builders} {name : String}

theorem renderAddend_addend {x : NamedAddend} {a : Addend} (h : store.addend name x = .ok a)
    (now : Compound) : now.renderAddend a = store.reference.documentOf name now x := by
  cases x with
  | given a => cases h; rfl
  | holding draw => cases h; rfl
  | builder n =>
    rw [addend] at h
    rw [Reference.documentOf, reference]
    by_cases hn : n = name
    · rw [if_pos hn] at h ⊢
      cases h
      rfl
    · rw [if_neg hn] at h ⊢
      cases hs : store.get? n with
      | none => rw [hs] at h; cases h
      | some c => rw [hs] at h; cases h; rfl

theorem addend_unknown {x : NamedAddend} {other : String}
    (h : store.reference.unknown? name x = some other) :
    store.addend name x = .error (.missingKey other) := by
  cases x with
  | given a => cases h
  | holding draw => cases h
  | builder n =>
    rw [Reference.unknown?] at h
    obtain ⟨hn, h⟩ := Option.ite_none_right_eq_some.mp h
    cases h
    have hs : store.get? other = none := hn.2
    rw [addend, if_neg hn.1, hs]

theorem addend_known {x : NamedAddend} (h : store.reference.unknown? name x = none) :
    ∃ a, store.addend name x = .ok a := by
  cases x with
  | given a => exact ⟨_, rfl⟩
  | holding draw => exact ⟨_, rfl⟩
  | builder n =>
    rw [addend]
    by_cases hn : n = name
    · exact ⟨_, if_pos hn⟩
    · rw [if_neg hn]
      cases hs : store.get? n with
      | some c => exact ⟨_, rfl⟩
      | none =>
        rw [Reference.unknown?, if_pos ⟨hn, hs⟩] at h
        cases h

theorem mapM_addend_unknown {xs : List NamedAddend} {other : String}
    (h : xs.findSome? (store.reference.unknown? name) = some other) :
    xs.mapM (store.addend name) = .error (.missingKey other) := by
  induction xs with
  | nil => cases h
  | cons x xs ih =>
    rw [List.mapM_cons]
    rw [List.findSome?_cons] at h
    cases hx : store.reference.unknown? name x with
    | some n =>
      rw [hx] at h
      cases h
      rw [addend_unknown hx]
      rfl
    | none =>
      rw [hx] at h
      obtain ⟨a, ha⟩ := addend_known hx
      rw [ha, ih h]
      rfl

theorem mapM_addend_known {xs : List NamedAddend}
    (h : xs.findSome? (store.reference.unknown? name) = none) :
    ∃ addends, xs.mapM (store.addend name) = .ok addends := by
  induction xs with
  | nil => exact ⟨[], rfl⟩
  | cons x xs ih =>
    rw [List.findSome?_cons] at h
    cases hx : store.reference.unknown? name x with
    | some n => rw [hx] at h; cases h
    | none =>
      rw [hx] at h
      obtain ⟨a, ha⟩ := addend_known hx
      obtain ⟨addends, hs⟩ := ih h
      exact ⟨a :: addends, by rw [List.mapM_cons, ha, hs]; rfl⟩

/-- What the reference adds is what the builder adds. -/
theorem add_eq_of_adds {xs : List NamedAddend} {addends : List Addend} {c : Compound}
    {occur : Occur} {documents : List Document} {fault : Option Fault}
    (hm : xs.mapM (store.addend name) = .ok addends)
    (h : Adds (store.reference.documentOf name) c occur xs documents fault) :
    c.add occur addends = (c.extend occur documents, fault) := by
  induction xs generalizing c addends documents with
  | nil =>
    cases hm
    obtain ⟨rfl, rfl⟩ := Adds.nil_iff.mp h
    rw [Compound.extend_nil]
    rfl
  | cons x xs ih =>
    rw [List.mapM_cons] at hm
    obtain ⟨a, ha, hm⟩ := Outcome.bind_eq_ok hm
    obtain ⟨as, has, hm⟩ := Outcome.bind_eq_ok hm
    cases hm
    rw [Compound.add, renderAddend_addend ha]
    cases hx : store.reference.documentOf name c x with
    | error f =>
      obtain ⟨rfl, rfl⟩ := (Adds.nil_iff_of_error hx).mp h
      rw [Compound.extend_nil]
    | ok d =>
      obtain ⟨ds, rfl, hds⟩ := (Adds.cons_iff_of_ok hx).mp h
      rw [← Compound.extend_append]
      exact ih has hds

/-- Every step of the reference is the step of the store. -/
theorem step_of_steps {step : Step} {t : Reference} {fault : Option Fault}
    (h : Reference.Steps store.reference step t fault) :
    t = (store.step step).1.reference ∧ fault = (store.step step).2 := by
  cases h with
  | @create name count n hn =>
    have hc : Compound.new count = .ok { minimum := n } := by rw [Compound.new, hn]; rfl
    rw [Builders.step, hc]
    exact ⟨(reference_set ..).symm, rfl⟩
  | @createFails name count f hf =>
    have hc : Compound.new count = .error f := by rw [Compound.new, hf]; rfl
    rw [Builders.step, hc]
    exact ⟨rfl, rfl⟩
  | @add name occur xs c documents fault hc hu ha =>
    obtain ⟨addends, hm⟩ := mapM_addend_known hu
    rw [Builders.step, show store.get? name = some c from hc, hm]
    dsimp only
    rw [add_eq_of_adds hm ha]
    exact ⟨(reference_set ..).symm, rfl⟩
  | addUnknown hc hu =>
    rw [Builders.step, show store.get? _ = _ from hc, mapM_addend_unknown hu]
    exact ⟨rfl, rfl⟩
  | @setMinimum name count c n hc hn =>
    have hm : c.setMinimum count = .ok { c with minimum := n } := by
      rw [Compound.setMinimum, hn]; rfl
    rw [Builders.step, show store.get? name = some c from hc]
    dsimp only
    rw [hm]
    exact ⟨(reference_set ..).symm, rfl⟩
  | @setMinimumFails name count c f hc hf =>
    have hm : c.setMinimum count = .error f := by rw [Compound.setMinimum, hf]; rfl
    rw [Builders.step, show store.get? name = some c from hc]
    dsimp only
    rw [hm]
    exact ⟨rfl, rfl⟩
  | @look name c hc =>
    rw [Builders.step, show store.get? name = some c from hc]
    exact ⟨rfl, rfl⟩
  | missing hn hs =>
    have hs : store.get? step.target = none := hs
    cases step with
    | create name count => exact absurd rfl (hn name count)
    | add name occur xs =>
      rw [Builders.step, show store.get? name = none from hs]
      exact ⟨rfl, rfl⟩
    | setMinimum name count =>
      rw [Builders.step, show store.get? name = none from hs]
      exact ⟨rfl, rfl⟩
    | look name =>
      rw [Builders.step, show store.get? name = none from hs]
      exact ⟨rfl, rfl⟩

/-- The steps of the reference are those of the store, and no others. -/
theorem steps_iff {step : Step} {t : Reference} {fault : Option Fault} :
    Reference.Steps store.reference step t fault ↔
      t = (store.step step).1.reference ∧ fault = (store.step step).2 := by
  refine ⟨step_of_steps, ?_⟩
  rintro ⟨rfl, rfl⟩
  -- The reference has some answer, and whatever it is, it is the store's.
  obtain ⟨t, fault, h⟩ := Reference.exists_steps store.reference step
  obtain ⟨rfl, rfl⟩ := step_of_steps h
  exact h

/-! ## Runs -/

/-- The store after steps, and the fault of each. -/
def run (store : Builders) : List Step → Builders × List (Option Fault)
  | [] => (store, [])
  | step :: rest =>
    let (next, fault) := store.step step
    let (last, faults) := run next rest
    (last, fault :: faults)

theorem run_append (before after : List Step) :
    (run store (before ++ after)).1 = (run (run store before).1 after).1 := by
  induction before generalizing store with
  | nil => rfl
  | cons step rest ih => exact @ih (store.step step).1

theorem runs_iff {steps : List Step} {t : Reference} {faults : List (Option Fault)} :
    Reference.Runs store.reference steps t faults ↔
      t = (run store steps).1.reference ∧ faults = (run store steps).2 := by
  induction steps generalizing store faults with
  | nil =>
    constructor
    · intro h
      cases h
      exact ⟨rfl, rfl⟩
    · rintro ⟨rfl, rfl⟩
      exact .nil
  | cons step rest ih =>
    constructor
    · intro h
      cases h with
      | cons hs hr =>
        obtain ⟨rfl, rfl⟩ := steps_iff.mp hs
        obtain ⟨rfl, rfl⟩ := ih.mp hr
        exact ⟨rfl, rfl⟩
    · rintro ⟨rfl, rfl⟩
      exact .cons (steps_iff.mpr ⟨rfl, rfl⟩) (ih.mpr ⟨rfl, rfl⟩)

theorem run_frame {steps : List Step} (h : ∀ step ∈ steps, step.target ≠ name) :
    (run store steps).1.get? name = store.get? name := by
  induction steps generalizing store with
  | nil => rfl
  | cons step rest ih =>
    have hs : Reference.Steps store.reference step _ _ := steps_iff.mpr ⟨rfl, rfl⟩
    have hf : (store.step step).1.get? name = store.get? name :=
      hs.frame (h step List.mem_cons_self)
    rw [← hf]
    exact ih fun other ho => h other (List.mem_cons_of_mem _ ho)

/-- No step puts a new builder in the place of the one of a name. -/
def Keeps (name : String) (steps : List Step) : Prop :=
  ∀ count, Step.create name count ∈ steps → ∃ f, Compound.new count = .error f

theorem run_grows {steps : List Step} {c : Compound} (hc : store.get? name = some c)
    (hk : Keeps name steps) :
    ∃ d, (run store steps).1.get? name = some d ∧
      ∀ occur, c.clauses occur <+: d.clauses occur := by
  induction steps generalizing store c with
  | nil => exact ⟨c, hc, fun _ => List.prefix_refl _⟩
  | cons step rest ih =>
    have hs : Reference.Steps store.reference step _ _ := steps_iff.mpr ⟨rfl, rfl⟩
    have kept (count : Argument) (h : step = .create name count) : (store.step step).2 ≠ none := by
      subst h
      obtain ⟨f, hf⟩ := hk count List.mem_cons_self
      rw [Builders.step, hf]
      exact Option.some_ne_none f
    obtain ⟨d, hd, hcd⟩ := hs.grows hc kept
    obtain ⟨e, he, hde⟩ := ih hd fun count h => hk count (List.mem_cons_of_mem _ h)
    exact ⟨e, he, fun occur => (hcd occur).trans (hde occur)⟩

/-- From no builders at all, the runs of the reference are those of the store, fault by fault. Steps
on other builders change nothing about a builder, whatever was added to what. Later steps leave what
is under each heading of its rendering in front, unless a new builder takes its place. -/
theorem run_follows_reference (before after : List Step) :
    (∀ t faults, Reference.Runs Reference.empty before t faults ↔
      t = (run [] before).1.reference ∧ faults = (run [] before).2) ∧
    (∀ name, (∀ step ∈ after, step.target ≠ name) →
      (run [] (before ++ after)).1.get? name = (run [] before).1.get? name) ∧
    ∀ name c, (run [] before).1.get? name = some c → Keeps name after →
      ∃ d, (run [] (before ++ after)).1.get? name = some d ∧
        ∀ occur, Compound.listed c.render occur <+: Compound.listed d.render occur := by
  refine ⟨fun t faults => @runs_iff [] before t faults, fun name h => ?_, fun name c hc hk => ?_⟩
  · rw [run_append]
    exact run_frame h
  · obtain ⟨d, hd, hcd⟩ := run_grows hc hk
    refine ⟨d, by rw [run_append]; exact hd, fun occur => ?_⟩
    rw [Compound.listed_render, Compound.listed_render]
    exact (hcd occur).map _

/-- A builder that is given a search, then itself, and then what is no clause. -/
def addsItself : List Step :=
  let search : TextClause := ⟨⟨.single "matrx"⟩, ⟨.single "title"⟩, none, none⟩
  [.create "inner" (.int 0),
   .add "inner" .must [.given (.made (.clause (.leaf (.text search)))), .builder "inner",
     .given .null]]

/-- The builder is added to another, and a new one of its name cannot be created. -/
def addedElsewhere : List Step :=
  [.create "outer" (.int 1), .add "outer" .should [.builder "inner"], .create "inner" (.int (-1))]

theorem addsItself_keeps_its_documents : ∃ c,
    (run [] addsItself).1.get? "inner" = some c ∧ c.must.length = 2 ∧ Keeps "inner" addedElsewhere ∧
      ∃ d, (run [] (addsItself ++ addedElsewhere)).1.get? "inner" = some d ∧
        ∀ occur, Compound.listed c.render occur <+: Compound.listed d.render occur := by
  have keeps : Keeps "inner" addedElsewhere := by
    intro count h
    simp only [addedElsewhere, List.mem_cons, Step.create.injEq, reduceCtorEq, List.not_mem_nil,
      false_or, or_false] at h
    rcases h with h | ⟨_, rfl⟩
    · exact absurd h.1 (by decide)
    · exact ⟨_, rfl⟩
  exact ⟨_, rfl, rfl, keeps, (run_follows_reference addsItself addedElsewhere).2.2 _ _ rfl keeps⟩

end Builders
end DocSearch
