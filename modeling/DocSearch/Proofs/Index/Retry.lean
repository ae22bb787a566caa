import DocSearch.Proofs.Index.Scripted
import DocSearch.Proofs.Outcome

/-! # Trying again

Creating the missing indexes can be broken off at any call. What is there then stays, and a further
attempt goes on from it. From whatever state the attempts begin, the first that completes leaves what
one attempt without any fault would have left, and those after it create nothing.

Only what a creation relies on is asked of the service: where no deletion is pending a listing tells
whether there is an index, and a creation that fails has no effect. -/

namespace DocSearch

variable {σ τ ι : Type}

/-- A reading of the indexes of a deployment by which indexes are created. -/
structure Shelf (service : IndexService σ τ) (ι : Type) extends Inventory service (Option ι) where
  /-- No deletion is pending. -/
  Settled : σ → Prop
  /-- The index that is created with a name and a definition. -/
  made : String → Document → ι
  settled_list : ∀ {s}, Settled s → ∀ place name, Settled ((service.list place name).run s).2
  settled_create : ∀ {s}, Settled s → ∀ place name definition,
    Settled ((service.create place name definition).run s).2
  found : ∀ {s place name listed s'}, Settled s →
    (service.list place name).run s = (.ok listed, s') →
    (listed = [] ↔ index s place.fullName name = none)
  failed : ∀ {s place name definition fault s'},
    (service.create place name definition).run s = (.error fault, s') → index s' = index s
  created : ∀ {s place name definition s'}, Settled s → index s place.fullName name = none →
    (service.create place name definition).run s = (.ok (), s') →
    index s' place.fullName name = some (made name definition)

namespace Scripted

/-- Where a drop takes effect at once no deletion is ever pending. -/
def shelf [Clock τ] : Shelf (service : IndexService Scripted τ) Document where
  toInventory := inventory
  Settled _ := True
  made := made
  settled_list _ _ _ := trivial
  settled_create _ _ _ _ := trivial
  found := by
    intro s place name listed s' _ hc
    rcases call_cases (Action.look fun s => (s.index place.fullName name).toList) s with h | ⟨rest, h⟩
    · cases h.1.symm.trans (congrArg Prod.fst hc)
    · have listing : (s.index place.fullName name).toList = listed :=
        Except.ok.inj (congrArg Prod.fst (h.symm.trans hc))
      rw [← listing]
      exact Option.toList_eq_nil_iff
  failed := by
    intro s place name definition fault s' hc
    rcases call_cases (set place name (some (made name definition))) s with h | ⟨rest, h⟩
    · exact (congrArg (fun r => r.2.index) hc).symm.trans h.2
    · cases h.symm.trans hc
  created := by
    intro s place name definition s' _ _ hc
    rcases call_cases (set place name (some (made name definition))) s with h | ⟨rest, h⟩
    · cases h.1.symm.trans (congrArg Prod.fst hc)
    · cases h.symm.trans hc
      exact if_pos ⟨rfl, rfl⟩

/-- Index work on the sample collections. -/
def work : IndexWork Scripted Rat := ⟨service, (Sandbox.sampleWork (2 : Rat)).settings, 2⟩

end Scripted
namespace IndexWork

variable {w : IndexWork σ τ}

/-- The index of a target in a reading of all indexes. -/
def own (w : IndexWork σ τ) (indexes : String → String → Option ι) (target : Target) : Option ι :=
  indexes (target.place w.settings).fullName w.settings.indexName

/-! ## Growth -/

/-- Of two readings the later has all that the earlier has, and beside it at most the indexes of
managed targets, each made with its target's own definition. -/
structure Grows (w : IndexWork σ τ) (made : String → Document → ι)
    (before after : String → String → Option ι) : Prop where
  kept : ∀ {collection name i}, before collection name = some i → after collection name = some i
  others : ∀ {collection name}, ¬ w.settings.Manages collection name →
    after collection name = before collection name
  made : ∀ t ∈ Target.managed, w.own before t = none → w.own after t = none ∨
    ∃ definition, t.definition = .ok definition ∧
      w.own after t = some (made w.settings.indexName definition)

namespace Grows

variable {made : String → Document → ι} {before between after : String → String → Option ι}

theorem refl (before : String → String → Option ι) : w.Grows made before before where
  kept h := h
  others _ := rfl
  made _ _ h := .inl h

theorem trans (h : w.Grows made before between) (h' : w.Grows made between after) :
    w.Grows made before after where
  kept hi := h'.kept (h.kept hi)
  others hm := (h'.others hm).trans (h.others hm)
  made t ht hnone := by
    rcases h.made t ht hnone with hb | ⟨definition, hd, hb⟩
    · exact h'.made t ht hb
    · exact .inr ⟨definition, hd, h'.kept hb⟩

theorem stays (h : w.Grows made before after) {target : Target} (hb : w.own before target ≠ none) :
    w.own after target ≠ none := by
  obtain ⟨i, hi⟩ := Option.ne_none_iff_exists'.mp hb
  have kept : w.own after target = some i := h.kept hi
  rw [kept]
  exact nofun

end Grows

/-- Of two readings the later is the earlier with the missing indexes of the managed targets. -/
structure Completes (w : IndexWork σ τ) (made : String → Document → ι)
    (before after : String → String → Option ι) : Prop where
  old : ∀ t ∈ Target.managed, ∀ i, w.own before t = some i → w.own after t = some i
  new : ∀ t ∈ Target.managed, w.own before t = none → ∃ definition,
    t.definition = .ok definition ∧ w.own after t = some (made w.settings.indexName definition)
  others : ∀ collection name, ¬ w.settings.Manages collection name →
    after collection name = before collection name

theorem Grows.completes {made : String → Document → ι} {before after : String → String → Option ι}
    (h : w.Grows made before after) (full : ∀ t ∈ Target.managed, w.own after t ≠ none) :
    w.Completes made before after where
  old _ _ _ hi := h.kept hi
  new t ht hnone := (h.made t ht hnone).resolve_left (full t ht)
  others _ _ hm := h.others hm

theorem exists_target {collection name : String} (h : w.settings.Manages collection name) :
    ∃ t ∈ Target.managed, collection = (t.place w.settings).fullName ∧
      name = w.settings.indexName := by
  obtain ⟨place, rfl, hname, rfl | rfl⟩ := h
  · exact ⟨.movies, by simp [Target.managed], rfl, hname⟩
  · exact ⟨.listings, by simp [Target.managed], rfl, hname⟩

/-- Nothing of the later reading is left open. -/
theorem Completes.unique {made : String → Document → ι}
    {before after after' : String → String → Option ι} (h : w.Completes made before after)
    (h' : w.Completes made before after') : after' = after := by
  funext collection name
  by_cases hm : w.settings.Manages collection name
  · obtain ⟨t, ht, rfl, rfl⟩ := exists_target hm
    cases hb : w.own before t with
    | some i => exact (h'.old t ht i hb).trans (h.old t ht i hb).symm
    | none =>
      obtain ⟨definition, hd, ha⟩ := h.new t ht hb
      obtain ⟨definition', hd', ha'⟩ := h'.new t ht hb
      cases hd.symm.trans hd'
      exact ha'.trans ha.symm
  · rw [h.others _ _ hm, h'.others _ _ hm]

/-! ## One target -/

variable {shelf : Shelf w.service ι} {s s' : σ} {target : Target}

/-- A call for a target fails: the listing, or the creation where nothing is listed. -/
def Breaks (w : IndexWork σ τ) (target : Target) (s : σ) (fault : Fault) : Prop :=
  (∃ s', (w.service.list (target.place w.settings) w.settings.indexName).run s
    = (.error fault, s')) ∨
  ∃ s' definition, (w.service.list (target.place w.settings) w.settings.indexName).run s
      = (.ok [], s') ∧ target.definition = .ok definition ∧
    ((w.service.create (target.place w.settings) w.settings.indexName definition).run s').1
      = .error fault

/-- What creating the index of one target comes to, if it is missing. -/
structure Turn (w : IndexWork σ τ) (shelf : Shelf w.service ι) (target : Target) (s : σ)
    (log : IndexLog τ) (outcome : Except Fault Bool) (s' : σ) : Prop where
  settled : shelf.Settled s'
  grows : w.Grows shelf.made (shelf.index s) (shelf.index s')
  done : ∀ answer, outcome = .ok answer →
    answer = true ∧ w.own (shelf.index s') target ≠ none
  idle : w.own (shelf.index s) target ≠ none → log.creates = []
  breaks : ∀ fault, outcome = .error fault → w.Breaks target s fault

theorem target_unique (hne : w.settings.movies.fullName ≠ w.settings.listings.fullName)
    {t u : Target} (ht : t ∈ Target.managed) (hu : u ∈ Target.managed)
    (h : (u.place w.settings).fullName = (t.place w.settings).fullName) : u = t := by
  simp only [Target.managed, List.mem_cons, List.not_mem_nil, or_false] at ht hu
  rcases ht with rfl | rfl <;> rcases hu with rfl | rfl
  · rfl
  · exact absurd h.symm hne
  · exact absurd h hne
  · rfl

/-- The index of a managed target is created where it was missing. -/
theorem grows_create (hne : w.settings.movies.fullName ≠ w.settings.listings.fullName)
    (ht : target ∈ Target.managed) {definition : Document} (hd : target.definition = .ok definition)
    (hs : shelf.Settled s) (missing : w.own (shelf.index s) target = none)
    (call : (w.service.create (target.place w.settings) w.settings.indexName definition).run s
      = (.ok (), s')) :
    w.Grows shelf.made (shelf.index s) (shelf.index s') ∧
      w.own (shelf.index s') target = some (shelf.made w.settings.indexName definition) := by
  have created : w.own (shelf.index s') target
      = some (shelf.made w.settings.indexName definition) := shelf.created hs missing call
  have apart {collection name : String} (h : ¬ (collection = (target.place w.settings).fullName ∧
      name = w.settings.indexName)) :
      shelf.index s' collection name = shelf.index s collection name := by
    have kept := shelf.create s (target.place w.settings) w.settings.indexName definition _ _ h
    rwa [call] at kept
  refine ⟨⟨?_, ?_, ?_⟩, created⟩
  · intro collection name i hi
    by_cases h : collection = (target.place w.settings).fullName ∧ name = w.settings.indexName
    · obtain ⟨rfl, rfl⟩ := h
      cases missing.symm.trans hi
    · rw [apart h, hi]
  · intro collection name hm
    refine apart ?_
    rintro ⟨hcollection, hname⟩
    refine hm ⟨target.place w.settings, hcollection.symm, ?_⟩
    rw [hname]
    exact w.settings.covers_place target
  · intro u hu hnone
    by_cases h : (u.place w.settings).fullName = (target.place w.settings).fullName
    · cases target_unique hne ht hu h
      exact .inr ⟨definition, hd, created⟩
    · exact .inl ((apart fun he => h he.1).trans hnone)

/-- A listing settles nothing and changes nothing. -/
theorem after_list (hs : shelf.Settled s) {listed : Except Fault (List Document)}
    (call : (w.service.list (target.place w.settings) w.settings.indexName).run s = (listed, s')) :
    shelf.Settled s' ∧ shelf.index s' = shelf.index s := by
  have settled := shelf.settled_list hs (target.place w.settings) w.settings.indexName
  have same := shelf.list s (target.place w.settings) w.settings.indexName
  rw [call] at settled same
  exact ⟨settled, same⟩

theorem turn_unlisted (hs : shelf.Settled s) {fault : Fault}
    (call : (w.service.list (target.place w.settings) w.settings.indexName).run s
      = (.error fault, s')) : Turn w shelf target s [] (.error fault) s' := by
  obtain ⟨settled, same⟩ := after_list hs call
  constructor
  case settled => exact settled
  case grows =>
    rw [same]
    exact .refl _
  case done =>
    intro answer h
    cases h
  case idle =>
    intro _
    rfl
  case breaks =>
    intro other h
    cases h
    exact .inl ⟨s', call⟩

theorem turn_found (hs : shelf.Settled s) {first : Document} {rest : List Document}
    (call : (w.service.list (target.place w.settings) w.settings.indexName).run s
      = (.ok (first :: rest), s')) {log : IndexLog τ} (hlog : log.creates = []) :
    Turn w shelf target s log (.ok true) s' := by
  obtain ⟨settled, same⟩ := after_list hs call
  constructor
  case settled => exact settled
  case grows =>
    rw [same]
    exact .refl _
  case done =>
    intro answer h
    cases h
    refine ⟨rfl, ?_⟩
    intro hnone
    rw [same] at hnone
    cases (shelf.found hs call).mpr hnone
  case idle =>
    intro _
    exact hlog
  case breaks =>
    intro fault h
    cases h

section Missing

variable {s₁ : σ} {definition : Document} {log : IndexLog τ}
  (call : (w.service.list (target.place w.settings) w.settings.indexName).run s = (.ok [], s₁))

include call

theorem turn_created (hne : w.settings.movies.fullName ≠ w.settings.listings.fullName)
    (hs : shelf.Settled s) (ht : target ∈ Target.managed) (hd : target.definition = .ok definition)
    (creation : (w.service.create (target.place w.settings) w.settings.indexName definition).run s₁
      = (.ok (), s')) : Turn w shelf target s log (.ok true) s' := by
  obtain ⟨settled, same⟩ := after_list hs call
  have vacant : w.own (shelf.index s) target = none := (shelf.found hs call).mp rfl
  have missing : w.own (shelf.index s₁) target = none := by
    rw [same]
    exact vacant
  obtain ⟨grows, hown⟩ := grows_create hne ht hd settled missing creation
  constructor
  case settled =>
    have settled := shelf.settled_create settled (target.place w.settings) w.settings.indexName
      definition
    rwa [creation] at settled
  case grows =>
    rw [← same]
    exact grows
  case done =>
    intro answer h
    cases h
    refine ⟨rfl, ?_⟩
    intro hnone
    cases hown.symm.trans hnone
  case idle =>
    intro h
    exact absurd vacant h
  case breaks =>
    intro fault h
    cases h

theorem turn_refused (hs : shelf.Settled s) (hd : target.definition = .ok definition) {fault : Fault}
    (creation : (w.service.create (target.place w.settings) w.settings.indexName definition).run s₁
      = (.error fault, s')) : Turn w shelf target s log (.error fault) s' := by
  obtain ⟨settled, same⟩ := after_list hs call
  have vacant : w.own (shelf.index s) target = none := (shelf.found hs call).mp rfl
  constructor
  case settled =>
    have settled := shelf.settled_create settled (target.place w.settings) w.settings.indexName
      definition
    rwa [creation] at settled
  case grows =>
    rw [shelf.failed creation, same]
    exact .refl _
  case done =>
    intro answer h
    cases h
  case idle =>
    intro h
    exact absurd vacant h
  case breaks =>
    intro other h
    cases h
    exact .inr ⟨s₁, definition, call, hd, congrArg Prod.fst creation⟩

end Missing

theorem exists_turn (hne : w.settings.movies.fullName ≠ w.settings.listings.fullName)
    (hs : shelf.Settled s) (ht : target ∈ Target.managed) :
    ∃ log outcome s',
      Records (w.create true target) (w.recorded.create true target) s log outcome s' ∧
      Turn w shelf target s log outcome s' := by
  obtain ⟨definition, hd⟩ := definition_managed target ht
  rcases call : (w.service.list (target.place w.settings) w.settings.indexName).run s with
    ⟨listed, s₁⟩
  cases listed with
  | error fault =>
    exact ⟨_, _, _, (Records.list_error call).bind_error.bind_error, turn_unlisted hs call⟩
  | ok found =>
    cases found with
    | cons first rest =>
      exact ⟨_, _, _, (records_find call).bind (.pure true s₁), turn_found hs call rfl⟩
    | nil =>
      rcases creation : (w.service.create (target.place w.settings) w.settings.indexName
        definition).run s₁ with ⟨created, s₂⟩
      cases created with
      | ok =>
        exact ⟨_, _, _, (records_find call).bind ((Records.lift hd s₁).after
          ((Records.create creation).bind (.pure true s₂))), turn_created call hne hs ht hd creation⟩
      | error fault =>
        exact ⟨_, _, _, (records_find call).bind ((Records.lift hd s₁).after
          (Records.create creation).bind_error), turn_refused call hs hd creation⟩

/-! ## All targets -/

/-- What an attempt for several targets comes to. -/
structure Attempt (w : IndexWork σ τ) (shelf : Shelf w.service ι) (targets : List Target) (s : σ)
    (log : IndexLog τ) (outcome : Except Fault (List (Target × Bool))) (s' : σ) : Prop where
  settled : shelf.Settled s'
  grows : w.Grows shelf.made (shelf.index s) (shelf.index s')
  done : ∀ answers, outcome = .ok answers → answers = targets.map (fun t => (t, true)) ∧
    ∀ t ∈ targets, w.own (shelf.index s') t ≠ none
  idle : (∀ t ∈ targets, w.own (shelf.index s) t ≠ none) → log.creates = []
  breaks : ∀ fault, outcome = .error fault → ∃ before t after, targets = before ++ t :: after ∧
    w.Breaks t ((forEach (w.create true) before).run s).2 fault

section Cons

variable {rest : List Target} {s₁ : σ} {first more : IndexLog τ}

theorem Turn.attempt_of_error {fault : Fault} (turn : Turn w shelf target s first (.error fault) s₁) :
    Attempt w shelf (target :: rest) s first (.error fault) s₁ where
  settled := turn.settled
  grows := turn.grows
  done := by
    intro answers h
    cases h
  idle := by
    intro h
    exact turn.idle (h target List.mem_cons_self)
  breaks := by
    intro other h
    cases h
    exact ⟨[], target, rest, rfl, turn.breaks fault rfl⟩

/-- A turn and an attempt for the targets after it are an attempt for all of them. -/
theorem Turn.attempt {answer : Bool} {outcome : Except Fault (List (Target × Bool))}
    (turn : Turn w shelf target s first (.ok answer) s₁) (run : (w.create true target).run s
      = (.ok answer, s₁)) (others : Attempt w shelf rest s₁ more outcome s') :
    Attempt w shelf (target :: rest) s (first ++ more) (outcome.map ((target, answer) :: ·)) s' := by
  obtain ⟨hanswer, hown⟩ := turn.done answer rfl
  constructor
  case settled => exact others.settled
  case grows => exact turn.grows.trans others.grows
  case done =>
    intro answers h
    obtain ⟨before, hbefore, rfl⟩ := Outcome.map_eq_ok h
    obtain ⟨rfl, hothers⟩ := others.done before hbefore
    refine ⟨by rw [hanswer]; rfl, ?_⟩
    intro t ht
    rcases List.mem_cons.mp ht with rfl | ht
    · exact others.grows.stays hown
    · exact hothers t ht
  case idle =>
    intro h
    have idle := others.idle fun t ht => turn.grows.stays (h t (List.mem_cons_of_mem _ ht))
    simp [IndexLog.creates_append, turn.idle (h target List.mem_cons_self), idle]
  case breaks =>
    intro fault h
    obtain ⟨before, t, after, rfl, hbreaks⟩ := others.breaks fault (Outcome.map_eq_error h)
    refine ⟨target :: before, t, after, rfl, ?_⟩
    rwa [forEach_cons_state run]

end Cons

theorem exists_attempt (hne : w.settings.movies.fullName ≠ w.settings.listings.fullName)
    (targets : List Target) (ht : ∀ t ∈ targets, t ∈ Target.managed) (hs : shelf.Settled s) :
    ∃ log outcome s', Records (forEach (w.create true) targets) (forEach (w.recorded.create true)
      targets) s log outcome s' ∧ Attempt w shelf targets s log outcome s' := by
  induction targets generalizing s with
  | nil =>
    refine ⟨[], .ok [], s, .pure [] s, hs, .refl _, ?_, fun _ => rfl, nofun⟩
    intro answers h
    cases h
    exact ⟨rfl, nofun⟩
  | cons target rest ih =>
    obtain ⟨first, outcome, s₁, hr, turn⟩ := exists_turn hne hs (ht target List.mem_cons_self)
    cases outcome with
    | error fault => exact ⟨first, _, s₁, hr.bind_error, turn.attempt_of_error⟩
    | ok answer =>
      obtain ⟨more, outcome, s', hrs, others⟩ :=
        ih (fun t h => ht t (List.mem_cons_of_mem _ h)) turn.settled
      refine ⟨first ++ more, _, s', ?_, turn.attempt hr.run others⟩
      cases outcome with
      | error fault => exact hr.bind hrs.bind_error
      | ok answers =>
        have whole : Records (forEach (w.create true) (target :: rest))
            (forEach (w.recorded.create true) (target :: rest)) s (first ++ (more ++ []))
            (.ok ((target, answer) :: answers)) s' := hr.bind (hrs.bind (.pure _ s'))
        rw [List.append_nil] at whole
        exact whole

/-- Targets whose turns are over have their indexes at the end of the attempt, also if it fails. -/
theorem own_of_front (hne : w.settings.movies.fullName ≠ w.settings.listings.fullName)
    (hs : shelf.Settled s) {front back : List Target} (split : Target.managed = front ++ back)
    {answers : List (Target × Bool)} {s₁ : σ}
    (done : (forEach (w.create true) front).run s = (.ok answers, s₁)) :
    ∀ t ∈ front, w.own (shelf.index ((w.createAll true).run s).2) t ≠ none := by
  have managed : ∀ t ∈ front ++ back, t ∈ Target.managed := fun t ht => split ▸ ht
  obtain ⟨_, _, _, hr, attempt⟩ := exists_attempt hne front
    (fun t ht => managed t (List.mem_append_left _ ht)) hs
  cases done.symm.trans hr.run
  obtain ⟨log, outcome, s', hr', others⟩ := exists_attempt hne back
    (fun t ht => managed t (List.mem_append_right _ ht)) attempt.settled
  have ended : ((w.createAll true).run s).2 = s' := by
    rw [createAll, split, forEach_append_state done, hr'.run]
  intro t ht
  rw [ended]
  exact others.grows.stays ((attempt.done answers rfl).2 t ht)

/-- In an attempt from a state no call fails. -/
def Undisturbed (w : IndexWork σ τ) (s : σ) : Prop :=
  ∀ before t after, Target.managed = before ++ t :: after →
    ∀ fault, ¬ w.Breaks t ((forEach (w.create true) before).run s).2 fault

theorem Undisturbed.completes (h : w.Undisturbed s)
    (hne : w.settings.movies.fullName ≠ w.settings.listings.fullName) (hs : shelf.Settled s) :
    ∃ answers, ((w.createAll true).run s).1 = .ok answers := by
  obtain ⟨log, outcome, s', hr, attempt⟩ := exists_attempt hne Target.managed (fun _ h => h) hs
  have run : (w.createAll true).run s = (outcome, s') := hr.run
  rw [run]
  cases outcome with
  | ok answers => exact ⟨answers, rfl⟩
  | error fault =>
    obtain ⟨before, t, after, hsplit, hbreaks⟩ := attempt.breaks fault rfl
    exact absurd hbreaks (h before t after hsplit fault)

/-! ## Attempts one after the other -/

variable [Clock τ]

/-- The state after some attempts to create the missing indexes, whatever comes of each. -/
def attempts (w : IndexWork σ τ) (n : Nat) (s : σ) : σ :=
  w.performAll (List.replicate n (.createAll true)) s

theorem attempts_add (w : IndexWork σ τ) (n k : Nat) (s : σ) :
    w.attempts (n + k) s = w.attempts k (w.attempts n s) := by
  rw [attempts, ← List.replicate_append_replicate, performAll, List.foldl_append]
  rfl

theorem attempts_one (w : IndexWork σ τ) (s : σ) :
    w.attempts 1 s = ((w.createAll true).run s).2 := by
  show ((w.createAll true >>= fun answers => pure (IndexAnswer.doneEach answers)).run s).2 = _
  rw [Action.run_bind]
  rcases (w.createAll true).run s with ⟨outcome, s'⟩
  cases outcome <;> rfl

/-- Attempts keep what is there, and create nothing once nothing is missing. -/
theorem exists_attempts (hne : w.settings.movies.fullName ≠ w.settings.listings.fullName)
    (hs : shelf.Settled s) (n : Nat) :
    shelf.Settled (w.attempts n s) ∧
      w.Grows shelf.made (shelf.index s) (shelf.index (w.attempts n s)) ∧
      ∃ log, (∀ before, w.recorded.attempts n (before, s) = (before ++ log, w.attempts n s)) ∧
        ((∀ t ∈ Target.managed, w.own (shelf.index s) t ≠ none) → log.creates = []) := by
  induction n with
  | zero => exact ⟨hs, .refl _, [], fun before => by rw [List.append_nil]; rfl, fun _ => rfl⟩
  | succ n ih =>
    obtain ⟨settled, grows, log, hlog, idle⟩ := ih
    obtain ⟨more, outcome, s', hr, attempt⟩ :=
      exists_attempt hne Target.managed (fun _ h => h) settled
    have next : w.attempts (n + 1) s = s' := by
      rw [attempts_add, attempts_one]
      exact congrArg Prod.snd hr.run
    rw [next]
    refine ⟨attempt.settled, grows.trans attempt.grows, log ++ more, ?_, ?_⟩
    · intro before
      rw [attempts_add, attempts_one, hlog, ← List.append_assoc]
      exact congrArg Prod.snd (hr.recorded (before ++ log))
    · intro h
      rw [IndexLog.creates_append, idle h, attempt.idle fun t ht => grows.stays (h t ht)]
      rfl

/-- The first attempt that completes leaves nothing missing. -/
theorem attempts_complete (hne : w.settings.movies.fullName ≠ w.settings.listings.fullName)
    (hs : shelf.Settled s) {n : Nat} {answers : List (Target × Bool)}
    (h : ((w.createAll true).run (w.attempts n s)).1 = .ok answers) :
    answers = (Target.managed.map fun t => (t, true)) ∧
      (∀ t ∈ Target.managed, w.own (shelf.index (w.attempts (n + 1) s)) t ≠ none) ∧
      w.Completes shelf.made (shelf.index s) (shelf.index (w.attempts (n + 1) s)) := by
  obtain ⟨settled, -⟩ := exists_attempts hne hs n
  obtain ⟨-, grows, -⟩ := exists_attempts hne hs (n + 1)
  obtain ⟨log, outcome, s', hr, attempt⟩ := exists_attempt hne Target.managed (fun _ h => h) settled
  have run : (w.createAll true).run (w.attempts n s) = (outcome, s') := hr.run
  have next : w.attempts (n + 1) s = s' := by rw [attempts_add, attempts_one, run]
  rw [run] at h
  obtain ⟨hanswers, full⟩ := attempt.done answers h
  rw [← next] at full
  exact ⟨hanswers, full, grows.completes full⟩

/-- What attempts to create the missing indexes come to, from a state on: what is there is kept, and
the first attempt that completes leaves what a single undisturbed one leaves, which is all that was
there and the missing indexes, so that no further attempt creates anything. -/
structure Converges (w : IndexWork σ τ) (shelf : Shelf w.service ι) (s : σ) : Prop where
  kept : ∀ n k collection name i, shelf.index (w.attempts n s) collection name = some i →
    shelf.index (w.attempts (n + k) s) collection name = some i
  /-- The targets whose turns are over in an attempt have their indexes at its end, also if it fails:
  the old one, or else one with the target's own definition. -/
  supplied : ∀ n front back answers, Target.managed = front ++ back →
    ((forEach (w.create true) front).run (w.attempts n s)).1 = .ok answers → ∀ t ∈ front,
      (∀ i, w.own (shelf.index (w.attempts n s)) t = some i →
        w.own (shelf.index (w.attempts (n + 1) s)) t = some i) ∧
      (w.own (shelf.index (w.attempts n s)) t = none → ∃ definition, t.definition = .ok definition ∧
        w.own (shelf.index (w.attempts (n + 1) s)) t
          = some (shelf.made w.settings.indexName definition))
  answers : ∀ n answers, ((w.createAll true).run (w.attempts n s)).1 = .ok answers →
    answers = Target.managed.map fun t => (t, true)
  completed : ∀ n answers, ((w.createAll true).run (w.attempts n s)).1 = .ok answers →
    w.Completes shelf.made (shelf.index s) (shelf.index (w.attempts (n + 1) s))
  undisturbed : ∀ n answers, ((w.createAll true).run (w.attempts n s)).1 = .ok answers →
    ∀ r, shelf.Settled r → shelf.index r = shelf.index s → w.Undisturbed r →
      ((w.createAll true).run r).1 = .ok answers ∧
      shelf.index (w.attempts (n + 1) s) = shelf.index ((w.createAll true).run r).2
  idle : ∀ n answers, ((w.createAll true).run (w.attempts n s)).1 = .ok answers →
    ∀ k, ∃ log, (∀ before, w.recorded.attempts k (before, w.attempts (n + 1) s)
      = (before ++ log, w.attempts (n + 1 + k) s)) ∧ log.creates = []

theorem createAll_converges (shelf : Shelf w.service ι)
    (hne : w.settings.movies.fullName ≠ w.settings.listings.fullName) (hs : shelf.Settled s) :
    w.Converges shelf s where
  kept := by
    intro n k collection name i hi
    obtain ⟨settled, -⟩ := exists_attempts hne hs n
    obtain ⟨-, grows, -⟩ := exists_attempts hne settled k
    rw [attempts_add]
    exact grows.kept hi
  supplied := by
    intro n front back answers split done t ht
    obtain ⟨settled, -⟩ := exists_attempts hne hs n
    obtain ⟨-, grows, -⟩ := exists_attempts hne settled 1
    have full := own_of_front hne settled split (Prod.ext done rfl) t ht
    rw [← attempts_one] at full
    rw [attempts_add]
    have managed : t ∈ Target.managed := split ▸ List.mem_append_left _ ht
    exact ⟨fun _ hi => grows.kept hi, fun hnone => (grows.made t managed hnone).resolve_left full⟩
  answers := by
    intro n answers h
    exact (attempts_complete hne hs h).1
  completed := by
    intro n answers h
    exact (attempts_complete hne hs h).2.2
  undisturbed := by
    intro n answers h r hr same undisturbed
    obtain ⟨answers', h'⟩ := undisturbed.completes hne hr
    obtain ⟨hanswers, -, completes⟩ := attempts_complete hne hs h
    obtain ⟨alone, -, completes'⟩ := attempts_complete (n := 0) hne hr h'
    rw [attempts_one, same] at completes'
    rw [hanswers, ← alone]
    exact ⟨h', completes'.unique completes⟩
  idle := by
    intro n answers h k
    obtain ⟨settled, -⟩ := exists_attempts hne hs (n + 1)
    obtain ⟨-, -, log, hlog, idle⟩ := exists_attempts hne settled k
    refine ⟨log, ?_, idle (attempts_complete hne hs h).2.1⟩
    intro before
    rw [hlog, attempts_add _ (n + 1) k]

/-- Broken off at its third call, the first attempt has created one index, which is there at its end;
the second creates the other. -/
theorem createAll_converges_scripted :
    ((Scripted.work.createAll true).run ⟨fun _ _ => none, [false, false, true]⟩).1
      = .error Scripted.fault ∧
    (Scripted.work.attempts 1 ⟨fun _ _ => none, [false, false, true]⟩).index "sample_mflix.movies"
      "default" = some (Scripted.made "default" IndexDefinition.movies) ∧
    Scripted.work.Completes Scripted.made (fun _ _ => none)
      (Scripted.work.attempts 2 ⟨fun _ _ => none, [false, false, true]⟩).index := by
  have distinct : Scripted.work.settings.movies.fullName ≠ Scripted.work.settings.listings.fullName :=
    Sandbox.sampleWork_distinct (2 : Rat)
  have converges : Scripted.work.Converges Scripted.shelf ⟨fun _ _ => none, [false, false, true]⟩ :=
    createAll_converges Scripted.shelf distinct trivial
  obtain ⟨-, made⟩ := converges.supplied 0 [.movies] [.listings] _ rfl rfl .movies (.head _)
  obtain ⟨definition, hd, created⟩ := made rfl
  cases hd
  exact ⟨rfl, created, converges.completed 1 _ rfl⟩

end IndexWork
end DocSearch

