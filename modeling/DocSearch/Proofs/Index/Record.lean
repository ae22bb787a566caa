import DocSearch.Index.Maintenance

/-! # Index work on record

A service can be asked to keep a record of the calls it gets, each with the reading of the clock.
Work on a recorded service is the same work: it ends as it would without the record. `Records` says
of an action and its recorded twin how both end and what the twin adds to the record. -/

namespace DocSearch

/-- A call of a service. Of a look it is told whether the index was listed. -/
inductive IndexCall (τ : Type) where
  | look (place : Namespace) (name : String) (found : Bool)
  | create (place : Namespace) (name : String) (definition : Document)
  | drop (place : Namespace) (name : String)
  | sleep (span : τ)

structure IndexEntry (τ : Type) where
  time : τ
  call : IndexCall τ

/-- The calls of a service in order. -/
abbrev IndexLog (τ : Type) := List (IndexEntry τ)

/-- The collection that a call is about. -/
def IndexCall.place? {τ : Type} : IndexCall τ → Option Namespace
  | .look place .. | .create place .. | .drop place _ => some place
  | .sleep _ => none

namespace IndexLog

variable {τ : Type} {place : Namespace} {name : String} {log more : IndexLog τ}

/-- The looks for an index: when, and whether it was listed. -/
def looks (place : Namespace) (name : String) (log : IndexLog τ) : List (τ × Bool) :=
  log.filterMap fun e =>
    match e.call with
    | .look p n found => if p = place ∧ n = name then some (e.time, found) else none
    | _ => none

def creates (log : IndexLog τ) : List (Namespace × String × Document) :=
  log.filterMap fun e =>
    match e.call with
    | .create place name definition => some (place, name, definition)
    | _ => none

def drops (log : IndexLog τ) : List (Namespace × String) :=
  log.filterMap fun e =>
    match e.call with
    | .drop place name => some (place, name)
    | _ => none

/-- Whether the first look for an index listed it. -/
def listedFirst (place : Namespace) (name : String) (log : IndexLog τ) : Bool :=
  (log.looks place name).head?.any (·.2)

/-- Nothing in the record is about a collection. -/
def Apart (place : Namespace) (log : IndexLog τ) : Prop := ∀ e ∈ log, e.call.place? ≠ some place

/-- Nothing but looks for one index, and sleeps. -/
def OnlyLooks (place : Namespace) (name : String) (log : IndexLog τ) : Prop :=
  ∀ e ∈ log, (∃ found, e.call = .look place name found) ∨ ∃ span, e.call = .sleep span

theorem looks_append :
    (log ++ more).looks place name = log.looks place name ++ more.looks place name :=
  List.filterMap_append

theorem looks_cons_look (time : τ) (found : Bool) (log : IndexLog τ) :
    looks place name (⟨time, .look place name found⟩ :: log)
      = (time, found) :: log.looks place name := by
  simp [looks]

@[simp] theorem looks_cons_sleep (time span : τ) (log : IndexLog τ) :
    looks place name (⟨time, .sleep span⟩ :: log) = log.looks place name := rfl

@[simp] theorem looks_cons_drop (time : τ) (p : Namespace) (n : String) (log : IndexLog τ) :
    looks place name (⟨time, .drop p n⟩ :: log) = log.looks place name := rfl

theorem creates_append : (log ++ more).creates = log.creates ++ more.creates :=
  List.filterMap_append

theorem drops_append : (log ++ more).drops = log.drops ++ more.drops := List.filterMap_append

theorem listedFirst_append {time : τ} {b : Bool}
    (h : (log.looks place name).getLast? = some (time, b)) :
    (log ++ more).listedFirst place name = log.listedFirst place name := by
  rw [listedFirst, listedFirst, looks_append]
  cases hl : log.looks place name with
  | nil =>
    rw [hl] at h
    cases h
  | cons => rfl

theorem mem_looks_iff {time : τ} {found : Bool} :
    (time, found) ∈ log.looks place name ↔ ⟨time, .look place name found⟩ ∈ log := by
  unfold looks
  rw [List.mem_filterMap]
  constructor
  · rintro ⟨⟨t, call⟩, he, h⟩
    cases call with
    | look p n b =>
      dsimp only at h
      split at h
      · rename_i hp
        cases h
        rw [← hp.1, ← hp.2]
        exact he
      · cases h
    | create | drop | sleep => cases h
  · intro h
    exact ⟨_, h, by simp⟩

theorem mem_creates_iff {definition : Document} : (place, name, definition) ∈ log.creates ↔
    ∃ time, ⟨time, .create place name definition⟩ ∈ log := by
  unfold creates
  rw [List.mem_filterMap]
  constructor
  · rintro ⟨⟨t, call⟩, he, h⟩
    cases call with
    | create p n d =>
      cases h
      exact ⟨t, he⟩
    | look | drop | sleep => cases h
  · rintro ⟨t, h⟩
    exact ⟨_, h, rfl⟩

theorem mem_drops_iff : (place, name) ∈ log.drops ↔ ∃ time, ⟨time, .drop place name⟩ ∈ log := by
  unfold drops
  rw [List.mem_filterMap]
  constructor
  · rintro ⟨⟨t, call⟩, he, h⟩
    cases call with
    | drop p n =>
      cases h
      exact ⟨t, he⟩
    | look | create | sleep => cases h
  · rintro ⟨t, h⟩
    exact ⟨_, h, rfl⟩

theorem Apart.looks (h : log.Apart place) : log.looks place name = [] := by
  refine List.eq_nil_iff_forall_not_mem.mpr ?_
  rintro ⟨time, found⟩ hm
  exact h _ (mem_looks_iff.mp hm) rfl

theorem Apart.cons {e : IndexEntry τ} (he : e.call.place? ≠ some place) (h : log.Apart place) :
    Apart place (e :: log) := by
  intro f hf
  rcases List.mem_cons.mp hf with rfl | hf
  · exact he
  · exact h f hf

theorem Apart.append (h : log.Apart place) (h' : more.Apart place) : (log ++ more).Apart place := by
  intro e he
  rcases List.mem_append.mp he with he | he
  · exact h e he
  · exact h' e he

end IndexLog

namespace IndexLog.OnlyLooks

variable {τ : Type} {place : Namespace} {name : String} {log : IndexLog τ}

theorem creates (h : log.OnlyLooks place name) : log.creates = [] := by
  refine List.filterMap_eq_nil_iff.mpr fun e he => ?_
  rcases h e he with ⟨found, hc⟩ | ⟨span, hc⟩ <;> rw [hc]

theorem drops (h : log.OnlyLooks place name) : log.drops = [] := by
  refine List.filterMap_eq_nil_iff.mpr fun e he => ?_
  rcases h e he with ⟨found, hc⟩ | ⟨span, hc⟩ <;> rw [hc]

theorem apart (h : log.OnlyLooks place name) {other : Namespace} (ho : other ≠ place) :
    log.Apart other := by
  intro e he
  rcases h e he with ⟨found, hc⟩ | ⟨span, hc⟩
  · rw [hc]
    exact fun heq => ho (Option.some.inj heq).symm
  · rw [hc]
    exact nofun

end IndexLog.OnlyLooks

variable {σ τ α β : Type}

/-! ## Keeping a record -/

/-- The service with a record beside it. A look that fails has nothing to tell. -/
def IndexService.recorded (service : IndexService σ τ) : IndexService (IndexLog τ × σ) τ where
  list place name := fun (log, s) =>
    match service.list place name s with
    | (.ok found, s') =>
      (.ok found, log ++ [⟨service.now s, .look place name !found.isEmpty⟩], s')
    | (.error fault, s') => (.error fault, log, s')
  create place name definition := fun (log, s) =>
    let (outcome, s') := service.create place name definition s
    (outcome, log ++ [⟨service.now s, .create place name definition⟩], s')
  drop place name := fun (log, s) =>
    let (outcome, s') := service.drop place name s
    (outcome, log ++ [⟨service.now s, .drop place name⟩], s')
  now := fun (_, s) => service.now s
  sleep span := fun (log, s) =>
    let (outcome, s') := service.sleep span s
    (outcome, log ++ [⟨service.now s, .sleep span⟩], s')

/-- The same work on a recorded service. -/
def IndexWork.recorded (w : IndexWork σ τ) : IndexWork (IndexLog τ × σ) τ where
  service := w.service.recorded
  settings := w.settings
  poll := w.poll

/-- From a state, an action and its recorded twin end alike, and the twin adds entries to the
record. -/
structure Records (x : Action σ α) (twin : Action (IndexLog τ × σ) α) (s : σ)
    (entries : IndexLog τ) (outcome : Except Fault α) (s' : σ) : Prop where
  run : x.run s = (outcome, s')
  recorded : ∀ log, twin.run (log, s) = (outcome, log ++ entries, s')

namespace Records

variable {x : Action σ α} {twin : Action (IndexLog τ × σ) α} {f : α → Action σ β}
  {g : α → Action (IndexLog τ × σ) β} {s s' s'' : σ} {entries more : IndexLog τ}
  {service : IndexService σ τ}

theorem pure (a : α) (s : σ) :
    Records (Pure.pure a : Action σ α) (Pure.pure a : Action (IndexLog τ × σ) α) s [] (.ok a) s :=
  ⟨rfl, fun log => by rw [List.append_nil]; rfl⟩

theorem fail (fault : Fault) (s : σ) : Records (Action.fail fault : Action σ α)
    (Action.fail fault : Action (IndexLog τ × σ) α) s [] (.error fault) s :=
  ⟨rfl, fun log => by rw [List.append_nil]; rfl⟩

theorem lift {computed outcome : Except Fault α} (h : computed = outcome) (s : σ) :
    Records (Action.lift computed : Action σ α)
      (Action.lift computed : Action (IndexLog τ × σ) α) s [] outcome s :=
  ⟨by rw [h]; rfl, fun log => by rw [h, List.append_nil]; rfl⟩

/-- A look at the clock. -/
theorem look (service : IndexService σ τ) (s : σ) : Records (Action.look service.now)
    (Action.look service.recorded.now) s [] (.ok (service.now s)) s :=
  ⟨rfl, fun log => by rw [List.append_nil]; rfl⟩

theorem bind {a : α} {outcome : Except Fault β} (h : Records x twin s entries (.ok a) s')
    (h' : Records (f a) (g a) s' more outcome s'') :
    Records (x >>= f) (twin >>= g) s (entries ++ more) outcome s'' where
  run := by rw [Action.run_bind_of_ok h.run, h'.run]
  recorded log := by
    rw [Action.run_bind_of_ok (h.recorded log), h'.recorded, List.append_assoc]

theorem bind_error {fault : Fault} (h : Records x twin s entries (.error fault) s') :
    Records (x >>= f) (twin >>= g) s entries (.error fault) s' where
  run := Action.run_bind_of_error h.run f
  recorded log := Action.run_bind_of_error (h.recorded log) g

/-- A first step that adds nothing to the record. -/
theorem after {a : α} {outcome : Except Fault β} (h : Records x twin s [] (.ok a) s)
    (h' : Records (f a) (g a) s entries outcome s') :
    Records (x >>= f) (twin >>= g) s entries outcome s' := h.bind h'

theorem list {place : Namespace} {name : String} {found : List Document}
    (h : (service.list place name).run s = (.ok found, s')) :
    Records (service.list place name) (service.recorded.list place name) s
      [⟨service.now s, .look place name !found.isEmpty⟩] (.ok found) s' where
  run := h
  recorded log := by
    have h' : service.list place name s = (.ok found, s') := h
    simp only [Action.run, IndexService.recorded, h']

theorem list_error {place : Namespace} {name : String} {fault : Fault}
    (h : (service.list place name).run s = (.error fault, s')) :
    Records (service.list place name) (service.recorded.list place name) s [] (.error fault) s'
    where
  run := h
  recorded log := by
    have h' : service.list place name s = (.error fault, s') := h
    simp only [Action.run, IndexService.recorded, h', List.append_nil]

theorem create {place : Namespace} {name : String} {definition : Document}
    {outcome : Except Fault Unit}
    (h : (service.create place name definition).run s = (outcome, s')) :
    Records (service.create place name definition) (service.recorded.create place name definition) s
      [⟨service.now s, .create place name definition⟩] outcome s' where
  run := h
  recorded log := by
    have h' : service.create place name definition s = (outcome, s') := h
    simp only [Action.run, IndexService.recorded, h']

theorem drop {place : Namespace} {name : String} {outcome : Except Fault Unit}
    (h : (service.drop place name).run s = (outcome, s')) :
    Records (service.drop place name) (service.recorded.drop place name) s
      [⟨service.now s, .drop place name⟩] outcome s' where
  run := h
  recorded log := by
    have h' : service.drop place name s = (outcome, s') := h
    simp only [Action.run, IndexService.recorded, h']

theorem sleep {span : τ} {outcome : Except Fault Unit}
    (h : (service.sleep span).run s = (outcome, s')) :
    Records (service.sleep span) (service.recorded.sleep span) s
      [⟨service.now s, .sleep span⟩] outcome s' where
  run := h
  recorded log := by
    have h' : service.sleep span s = (outcome, s') := h
    simp only [Action.run, IndexService.recorded, h']

end Records
end DocSearch
