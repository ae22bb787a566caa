import DocSearch.Proofs.Index.Pending

/-! # What index work asks for

Work on indexes is a course of calls of the service, whichever of them fail. Besides looks and sleeps
it asks only for what it is permitted, and only for the index that the settings name on one of the
two collections they name. What a course leaves alone follows from its calls one by one. -/

namespace DocSearch

variable {σ τ α β ι : Type}

/-- The settings name the index and its collection. -/
def IndexSettings.Covers (settings : IndexSettings) (place : Namespace) (name : String) : Prop :=
  name = settings.indexName ∧ (place = settings.movies ∨ place = settings.listings)

/-- A target that is not managed has its collection among the two as well. -/
theorem IndexSettings.covers_place (settings : IndexSettings) (target : Target) :
    settings.Covers (target.place settings) settings.indexName := by
  refine ⟨rfl, ?_⟩
  cases target with
  | movies => exact .inl rfl
  | listings | unmanaged => exact .inr rfl

/-- Whether indexes may be created, and whether they may be dropped. -/
structure Permit where
  creates : Bool
  drops : Bool

/-- The calls that a permit allows under some settings. -/
def Permit.Allows (permit : Permit) (settings : IndexSettings) : IndexCall τ → Prop
  | .look place name _ => settings.Covers place name
  | .create place name _ => permit.creates = true ∧ settings.Covers place name
  | .drop place name => permit.drops = true ∧ settings.Covers place name
  | .sleep _ => True

theorem Permit.allows_all {permit : Permit} {settings : IndexSettings} {call : IndexCall τ}
    (h : permit.Allows settings call) : Permit.Allows ⟨true, true⟩ settings call := by
  cases call with
  | look => exact h
  | create => exact ⟨rfl, h.2⟩
  | drop => exact ⟨rfl, h.2⟩
  | sleep => trivial

/-- A course of calls of a service, each as `P` has it, with its record. A look that fails may change
the state, but there is nothing to record of it. -/
inductive Course (service : IndexService σ τ) (P : IndexCall τ → Prop) :
    σ → IndexLog τ → σ → Prop
  | nil {s : σ} : Course service P s [] s
  | unseen {place : Namespace} {name : String} {fault : Fault} {s s₁ s' : σ} {log : IndexLog τ}
      (call : (service.list place name).run s = (.error fault, s₁))
      (later : Course service P s₁ log s') : Course service P s log s'
  | look {place : Namespace} {name : String} {found : List Document} {s s₁ s' : σ}
      {log : IndexLog τ} (call : (service.list place name).run s = (.ok found, s₁))
      (allowed : P (.look place name !found.isEmpty)) (later : Course service P s₁ log s') :
      Course service P s (⟨service.now s, .look place name !found.isEmpty⟩ :: log) s'
  | create {place : Namespace} {name : String} {definition : Document}
      {outcome : Except Fault Unit} {s s₁ s' : σ} {log : IndexLog τ}
      (call : (service.create place name definition).run s = (outcome, s₁))
      (allowed : P (.create place name definition)) (later : Course service P s₁ log s') :
      Course service P s (⟨service.now s, .create place name definition⟩ :: log) s'
  | drop {place : Namespace} {name : String} {outcome : Except Fault Unit} {s s₁ s' : σ}
      {log : IndexLog τ} (call : (service.drop place name).run s = (outcome, s₁))
      (allowed : P (.drop place name)) (later : Course service P s₁ log s') :
      Course service P s (⟨service.now s, .drop place name⟩ :: log) s'
  | sleep {span : τ} {outcome : Except Fault Unit} {s s₁ s' : σ} {log : IndexLog τ}
      (call : (service.sleep span).run s = (outcome, s₁))
      (allowed : P (.sleep span)) (later : Course service P s₁ log s') :
      Course service P s (⟨service.now s, .sleep span⟩ :: log) s'

namespace Course

variable {service : IndexService σ τ} {P Q : IndexCall τ → Prop} {s s' s'' : σ}
  {log more : IndexLog τ}

theorem append (h : Course service P s log s') (h' : Course service P s' more s'') :
    Course service P s (log ++ more) s'' := by
  induction h with
  | nil => exact h'
  | unseen call _ ih => exact .unseen call (ih h')
  | look call allowed _ ih => exact .look call allowed (ih h')
  | create call allowed _ ih => exact .create call allowed (ih h')
  | drop call allowed _ ih => exact .drop call allowed (ih h')
  | sleep call allowed _ ih => exact .sleep call allowed (ih h')

theorem mono (h : Course service P s log s') (hPQ : ∀ call, P call → Q call) :
    Course service Q s log s' := by
  induction h with
  | nil => exact .nil
  | unseen call _ ih => exact .unseen call ih
  | look call allowed _ ih => exact .look call (hPQ _ allowed) ih
  | create call allowed _ ih => exact .create call (hPQ _ allowed) ih
  | drop call allowed _ ih => exact .drop call (hPQ _ allowed) ih
  | sleep call allowed _ ih => exact .sleep call (hPQ _ allowed) ih

theorem allowed (h : Course service P s log s') : ∀ e ∈ log, P e.call := by
  induction h with
  | nil => exact nofun
  | unseen _ _ ih => exact ih
  | look _ allowed _ ih => exact List.forall_mem_cons.mpr ⟨allowed, ih⟩
  | create _ allowed _ ih => exact List.forall_mem_cons.mpr ⟨allowed, ih⟩
  | drop _ allowed _ ih => exact List.forall_mem_cons.mpr ⟨allowed, ih⟩
  | sleep _ allowed _ ih => exact List.forall_mem_cons.mpr ⟨allowed, ih⟩

end Course

/-! ## Frames -/

/-- A reading of the indexes of a deployment, by the full name of the collection and the name of the
index. Looks and sleeps leave it as it is, and a creation or a drop changes it at most for the index
that it names. -/
structure Inventory (service : IndexService σ τ) (ι : Type) where
  index : σ → String → String → ι
  list : ∀ s place name, index ((service.list place name).run s).2 = index s
  sleep : ∀ s span, index ((service.sleep span).run s).2 = index s
  create : ∀ s place name definition collection other,
    ¬ (collection = place.fullName ∧ other = name) →
    index ((service.create place name definition).run s).2 collection other
      = index s collection other
  drop : ∀ s place name collection other, ¬ (collection = place.fullName ∧ other = name) →
    index ((service.drop place name).run s).2 collection other = index s collection other

/-- The settings name the index on the collection with a full name. -/
def IndexSettings.Manages (settings : IndexSettings) (collection name : String) : Prop :=
  ∃ place, place.fullName = collection ∧ settings.Covers place name

/-- What the settings do not name stays as it is along a course, whatever is permitted. -/
theorem Course.frame {service : IndexService σ τ} (inventory : Inventory service ι)
    {permit : Permit} {settings : IndexSettings} {s s' : σ} {log : IndexLog τ}
    (h : Course service (permit.Allows settings) s log s') {collection name : String}
    (apart : ¬ settings.Manages collection name) :
    inventory.index s' collection name = inventory.index s collection name := by
  have other : ∀ {place : Namespace} {n : String}, settings.Covers place n →
      ¬ (collection = place.fullName ∧ name = n) := by
    intro place n hc he
    exact apart ⟨place, he.1.symm, he.2 ▸ hc⟩
  induction h with
  | nil => rfl
  | @unseen place n fault s s₁ s' log call _ ih =>
    have kept := inventory.list s place n
    rw [call] at kept
    rw [ih, kept]
  | @look place n found s s₁ s' log call _ _ ih =>
    have kept := inventory.list s place n
    rw [call] at kept
    rw [ih, kept]
  | @create place n definition outcome s s₁ s' log call allowed _ ih =>
    have kept := inventory.create s place n definition collection name (other allowed.2)
    rw [call] at kept
    rw [ih, kept]
  | @drop place n outcome s s₁ s' log call allowed _ ih =>
    have kept := inventory.drop s place n collection name (other allowed.2)
    rw [call] at kept
    rw [ih, kept]
  | @sleep span outcome s s₁ s' log call _ _ ih =>
    have kept := inventory.sleep s span
    rw [call] at kept
    rw [ih, kept]

/-! ## Work as a course -/

/-- From every state an action is a course of calls as `P` has them, which its recorded twin has on
record. -/
def Confined (service : IndexService σ τ) (P : IndexCall τ → Prop) (x : Action σ α)
    (twin : Action (IndexLog τ × σ) α) : Prop :=
  ∀ s, ∃ entries outcome s', Records x twin s entries outcome s' ∧ Course service P s entries s'

namespace Confined

variable {service : IndexService σ τ} {P Q : IndexCall τ → Prop} {x : Action σ α}
  {twin : Action (IndexLog τ × σ) α} {f : α → Action σ β} {g : α → Action (IndexLog τ × σ) β}
  {place : Namespace} {name : String}

theorem pure (a : α) : Confined service P (Pure.pure a) (Pure.pure a) :=
  fun s => ⟨[], _, s, .pure a s, .nil⟩

theorem fail (fault : Fault) :
    Confined service P (Action.fail fault : Action σ α) (Action.fail fault) :=
  fun s => ⟨[], _, s, .fail fault s, .nil⟩

theorem lift (computed : Except Fault α) :
    Confined service P (Action.lift computed) (Action.lift computed) :=
  fun s => ⟨[], _, s, .lift rfl s, .nil⟩

theorem now : Confined service P (Action.look service.now) (Action.look service.recorded.now) :=
  fun s => ⟨[], _, s, .look service s, .nil⟩

theorem bind (h : Confined service P x twin) (h' : ∀ a, Confined service P (f a) (g a)) :
    Confined service P (x >>= f) (twin >>= g) := by
  intro s
  obtain ⟨entries, outcome, s₁, hr, hc⟩ := h s
  cases outcome with
  | error fault => exact ⟨entries, _, s₁, hr.bind_error, hc⟩
  | ok a =>
    obtain ⟨more, outcome, s', hr', hc'⟩ := h' a s₁
    exact ⟨entries ++ more, outcome, s', hr.bind hr', hc.append hc'⟩

theorem list (allowed : ∀ found, P (.look place name found)) :
    Confined service P (service.list place name) (service.recorded.list place name) := by
  intro s
  rcases call : (service.list place name).run s with ⟨outcome, s'⟩
  cases outcome with
  | ok found => exact ⟨_, _, s', .list call, .look call (allowed _) .nil⟩
  | error fault => exact ⟨[], _, s', .list_error call, .unseen call .nil⟩

theorem create {definition : Document} (allowed : P (.create place name definition)) :
    Confined service P (service.create place name definition)
      (service.recorded.create place name definition) :=
  fun _ => ⟨_, _, _, .create rfl, .create rfl allowed .nil⟩

theorem drop (allowed : P (.drop place name)) :
    Confined service P (service.drop place name) (service.recorded.drop place name) :=
  fun _ => ⟨_, _, _, .drop rfl, .drop rfl allowed .nil⟩

theorem sleep {span : τ} (allowed : P (.sleep span)) :
    Confined service P (service.sleep span) (service.recorded.sleep span) :=
  fun _ => ⟨_, _, _, .sleep rfl, .sleep rfl allowed .nil⟩

theorem forEach {work : Target → Action σ α} {twin : Target → Action (IndexLog τ × σ) α}
    (h : ∀ target, Confined service P (work target) (twin target)) (targets : List Target) :
    Confined service P (IndexWork.forEach work targets) (IndexWork.forEach twin targets) := by
  induction targets with
  | nil => exact pure []
  | cons target rest ih =>
    refine bind (h target) fun answer => bind ih fun answers => ?_
    exact pure ((target, answer) :: answers)

end Confined

namespace IndexWork

variable (w : IndexWork σ τ) (permit : Permit)

/-- An action of index work is a course of permitted calls about the index of the settings. -/
abbrev Keeps (permit : Permit) (x : Action σ α) (twin : Action (IndexLog τ × σ) α) : Prop :=
  Confined w.service (permit.Allows w.settings) x twin

theorem keeps_find (target : Target) :
    w.Keeps permit (w.find (target.place w.settings))
      (w.recorded.find (target.place w.settings)) :=
  .bind (.list fun _ => w.settings.covers_place target) fun _ => .pure _

theorem keeps_info (target : Target) :
    w.Keeps permit (w.info target) (w.recorded.info target) :=
  .bind (w.keeps_find permit target) fun _ => .pure _

theorem keeps_isGone (target : Target) :
    w.Keeps permit (w.isGone (target.place w.settings))
      (w.recorded.isGone (target.place w.settings)) :=
  .bind (w.keeps_find permit target) fun _ => .pure _

variable {permit}

theorem keeps_create (creates : permit.creates = true) (skipExisting : Bool) (target : Target) :
    w.Keeps permit (w.create skipExisting target) (w.recorded.create skipExisting target) := by
  refine .bind (w.keeps_find permit target) fun found => ?_
  cases found with
  | some found =>
    cases skipExisting with
    | true => exact .pure true
    | false => exact .fail _
  | none =>
    refine .bind (.lift target.definition) fun definition => .bind (.create ?_) fun _ => .pure true
    exact ⟨creates, w.settings.covers_place target⟩

variable [Clock τ]

theorem keeps_waitUntil (target : Target) (deadline : τ) (fuel : Nat) :
    w.Keeps permit (w.waitUntil (target.place w.settings) deadline fuel)
      (w.recorded.waitUntil (target.place w.settings) deadline fuel) := by
  induction fuel with
  | zero => exact w.keeps_isGone permit target
  | succ fuel ih =>
    refine .bind .now fun now => ?_
    show w.Keeps permit (if Clock.lt now deadline then _ else _)
      (if Clock.lt now deadline then _ else _)
    split
    · refine .bind (w.keeps_isGone permit target) fun gone => ?_
      cases gone with
      | true => exact .pure true
      | false => exact .bind (.sleep trivial) fun _ => ih
    · exact w.keeps_isGone permit target

theorem keeps_drop (drops : permit.drops = true) (span : τ) (target : Target) :
    w.Keeps permit (w.drop span target) (w.recorded.drop span target) := by
  refine .bind (w.keeps_find permit target) fun found => ?_
  cases found with
  | none => exact .pure true
  | some found =>
    refine .bind (.drop ⟨drops, w.settings.covers_place target⟩) fun _ => ?_
    refine .bind (.lift (Clock.isPositive span)) fun positive => ?_
    cases positive with
    | false => exact .pure true
    | true =>
      refine .bind .now fun now => .bind (.lift (Clock.add now span)) fun deadline => ?_
      exact w.keeps_waitUntil target deadline _

theorem keeps_recreateAll (creates : permit.creates = true) (drops : permit.drops = true)
    (span : τ) : w.Keeps permit (w.recreateAll span) (w.recorded.recreateAll span) := by
  refine .bind (.forEach (w.keeps_drop drops span) _) fun dropped => ?_
  show w.Keeps permit (if allDone dropped then _ else _) (if allDone dropped then _ else _)
  split
  · exact .forEach (w.keeps_create creates false) _
  · exact .pure dropped

/-- What a piece of work has to be permitted. -/
def permitOf : IndexOperation τ → Permit
  | .status | .info _ => ⟨false, false⟩
  | .create .. | .createAll _ => ⟨true, false⟩
  | .drop .. | .dropAll _ => ⟨false, true⟩
  | .recreateAll _ => ⟨true, true⟩

theorem keeps_perform (operation : IndexOperation τ) :
    w.Keeps (permitOf operation) (w.perform operation) (w.recorded.perform operation) := by
  cases operation with
  | status => exact .bind (.forEach (w.keeps_info _) _) fun _ => .pure _
  | info target => exact .bind (w.keeps_info _ target) fun _ => .pure _
  | create target skipExisting =>
    exact .bind (w.keeps_create rfl skipExisting target) fun _ => .pure _
  | createAll skipExisting =>
    exact .bind (.forEach (w.keeps_create rfl skipExisting) _) fun _ => .pure _
  | drop target span => exact .bind (w.keeps_drop rfl span target) fun _ => .pure _
  | dropAll span => exact .bind (.forEach (w.keeps_drop rfl span) _) fun _ => .pure _
  | recreateAll span => exact .bind (w.keeps_recreateAll rfl rfl span) fun _ => .pure _

/-- Pieces of work one after the other, whatever comes of each, are one course of calls. -/
theorem exists_performAll (operations : List (IndexOperation τ)) (s : σ) :
    ∃ log, (∀ before, w.recorded.performAll operations (before, s)
        = (before ++ log, w.performAll operations s)) ∧
      Course w.service (Permit.Allows ⟨true, true⟩ w.settings) s log
        (w.performAll operations s) := by
  induction operations generalizing s with
  | nil =>
    refine ⟨[], ?_, .nil⟩
    intro before
    simp [performAll]
  | cons operation rest ih =>
    obtain ⟨entries, outcome, s₁, hr, hc⟩ := w.keeps_perform operation s
    obtain ⟨log, hrest, hcourse⟩ := ih s₁
    have first : w.performAll (operation :: rest) s = w.performAll rest s₁ := by
      show w.performAll rest ((w.perform operation).run s).2 = _
      rw [hr.run]
    refine ⟨entries ++ log, ?_, ?_⟩
    · intro before
      have twin : w.recorded.performAll (operation :: rest) (before, s)
          = w.recorded.performAll rest (before ++ entries, s₁) := by
        show w.recorded.performAll rest ((w.recorded.perform operation).run (before, s)).2 = _
        rw [hr.recorded]
      rw [twin, hrest, first, List.append_assoc]
    · rw [first]
      exact (hc.mono fun call => Permit.allows_all).append hcourse

end IndexWork
end DocSearch
