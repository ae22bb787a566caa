import DocSearch.Index.Sandbox
import DocSearch.Proofs.Index.Deployment

/-! # The sandbox is a deployment

The service in memory keeps the laws of a deployment, with any lingering of what is dropped. In a
collection two things tell how an index stands: whether one of its name is listed, and whether its
name is noted as leaving. Every operation moves both as the laws want, as long as nothing is noted
as leaving that is not listed. -/

namespace DocSearch

namespace SandboxCollection

variable {name : String} {c : SandboxCollection}

def isListed (name : String) (c : SandboxCollection) : Bool := c.indexes.any (isNamed name)

def isLeaving (name : String) (c : SandboxCollection) : Bool := c.leaving.any (·.1 == name)

def presence (name : String) (c : SandboxCollection) : Presence :=
  if c.isListed name then if c.isLeaving name then .leaving else .standing else .gone

/-- What leaves is listed. -/
def Sound (name : String) (c : SandboxCollection) : Prop :=
  c.isLeaving name = true → c.isListed name = true

theorem presence_eq_gone_iff : c.presence name = .gone ↔ c.isListed name = false := by
  unfold presence
  cases c.isListed name <;> cases c.isLeaving name <;> simp

theorem presence_congr {c' : SandboxCollection} (hi : c'.isListed name = c.isListed name)
    (hl : c'.isLeaving name = c.isLeaving name) : c'.presence name = c.presence name := by
  rw [presence, presence, hi, hl]

/-- An index has one name. -/
theorem isNamed_unique {m : String} {index : Document} (h : isNamed m index = true) :
    isNamed name index = decide (m = name) := by
  unfold isNamed at *
  split at h
  · rw [← beq_iff_eq.mp h]
    rfl
  · cases h

theorem isListed_remove (m : String) :
    (c.remove m).isListed name = (!decide (m = name) && c.isListed name) := by
  unfold isListed remove
  rw [List.any_filter]
  by_cases hm : m = name
  · subst hm
    simp
  · have hkeep : ∀ index, (!isNamed m index && isNamed name index) = isNamed name index := by
      intro index
      cases h : isNamed m index with
      | false => rfl
      | true => rw [isNamed_unique h, decide_eq_false hm]; rfl
    simp [hm, hkeep]

theorem isLeaving_remove (m : String) :
    (c.remove m).isLeaving name = (!decide (m = name) && c.isLeaving name) := by
  unfold isLeaving remove
  rw [List.any_filter]
  by_cases hm : m = name
  · subst hm
    simp
  · have hkeep : ∀ entry : String × Linger,
        (entry.1 != m && entry.1 == name) = (entry.1 == name) := by
      intro entry
      by_cases h : entry.1 = name
      · simp [h, Ne.symm hm]
      · simp [h]
    simp [hm, hkeep]

/-- Removing several names, for what one removal clears of its own name alone. -/
theorem foldl_remove {f : SandboxCollection → Bool}
    (hf : ∀ c m, f (remove m c) = (!decide (m = name) && f c)) (names : List String)
    (c : SandboxCollection) :
    f (names.foldl (fun c m => c.remove m) c) = (!decide (name ∈ names) && f c) := by
  induction names generalizing c with
  | nil => simp
  | cons m rest ih =>
    rw [List.foldl_cons, ih, hf]
    by_cases hm : m = name
    · simp [hm]
    · simp [hm, Ne.symm hm]

theorem isListed_afterListing :
    c.afterListing.isListed name = (!decide (name ∈ c.due) && c.isListed name) :=
  foldl_remove (fun _ m => isListed_remove m) c.due c

theorem isLeaving_afterListing :
    c.afterListing.isLeaving name = (!decide (name ∈ c.due) && c.isLeaving name) := by
  rw [← foldl_remove (fun _ m => isLeaving_remove m) c.due c]
  unfold isLeaving afterListing
  rw [List.any_map]
  congr 1
  funext ⟨m, linger⟩
  cases linger <;> rfl

theorem isLeaving_of_mem_due (h : name ∈ c.due) : c.isLeaving name = true := by
  obtain ⟨⟨m, linger⟩, hm, hd⟩ := List.mem_filterMap.mp h
  dsimp only at hd
  split at hd
  · cases hd
    exact List.any_eq_true.mpr ⟨_, hm, beq_self_eq_true name⟩
  · cases hd

theorem Sound.afterListing (h : c.Sound name) : c.afterListing.Sound name := by
  intro hl
  rw [isLeaving_afterListing, Bool.and_eq_true] at hl
  rw [isListed_afterListing, hl.1, h hl.2]
  rfl

/-- A listing completes the deletions that are due. -/
theorem Sound.becomes_afterListing (h : c.Sound name) :
    (c.presence name).Becomes (c.afterListing.presence name) := by
  by_cases hd : name ∈ c.due
  · have hl : c.isLeaving name = true := isLeaving_of_mem_due hd
    refine .inr ⟨?_, ?_⟩
    · rw [presence, h hl, hl]
      rfl
    · rw [presence_eq_gone_iff, isListed_afterListing, decide_eq_true hd]
      rfl
  · refine .inl (presence_congr ?_ ?_)
    · rw [isListed_afterListing, decide_eq_false hd]
      rfl
    · rw [isLeaving_afterListing, decide_eq_false hd]
      rfl

theorem any_putIndex {index : Document} (h : isNamed name index = true) (indexes : List Document) :
    (putIndex name index indexes).any (isNamed name) = true := by
  induction indexes with
  | nil => simp [putIndex, h]
  | cons old rest ih =>
    unfold putIndex
    split
    · simp [h]
    · simp [ih]

theorem isListed_create (definition : Document) : (c.create name definition).isListed name = true :=
  any_putIndex (by simp [isNamed, Entries.get?]) c.indexes

theorem Sound.presence_create (h : c.Sound name) (hp : c.presence name = .gone)
    (definition : Document) : (c.create name definition).presence name = .standing := by
  have hlisted : c.isListed name = false := presence_eq_gone_iff.mp hp
  have hleaving : (c.create name definition).isLeaving name = false := by
    refine Bool.eq_false_iff.mpr fun hl => ?_
    rw [h hl] at hlisted
    cases hlisted
  rw [presence, isListed_create, hleaving]
  rfl

/-- An index that is dropped is removed at once, or is noted as leaving and stays listed. -/
theorem drop_cases : (∃ c' : SandboxCollection, c.drop name = c'.remove name) ∨
    ((c.drop name).isListed name = c.isListed name ∧ (c.drop name).isLeaving name = true) := by
  unfold drop
  dsimp only
  split
  · exact .inl ⟨_, rfl⟩
  · exact .inr ⟨rfl, by simp [isLeaving]⟩

theorem presence_drop : (c.drop name).presence name ≠ .standing := by
  rcases drop_cases (c := c) with ⟨c', h⟩ | ⟨-, hl⟩
  · rw [h, presence, isListed_remove, decide_eq_true rfl]
    exact nofun
  · rw [presence, hl]
    split <;> exact nofun

theorem sound_drop (hp : c.presence name ≠ .gone) : (c.drop name).Sound name := by
  intro hl
  rcases drop_cases (c := c) with ⟨c', h⟩ | ⟨hi, -⟩
  · rw [h, isLeaving_remove, decide_eq_true rfl] at hl
    cases hl
  · rw [hi, ← Bool.not_eq_false, ← presence_eq_gone_iff]
    exact hp

end SandboxCollection

namespace Sandbox

variable {τ : Type} {s : Sandbox τ}

theorem lookup_put (name other : String) (c : SandboxCollection)
    (collections : List (String × SandboxCollection)) : (put name c collections).lookup other
      = if other = name then some c else collections.lookup other := by
  induction collections with
  | nil =>
    by_cases ho : other = name
    · simp [put, ho]
    · simp [put, ho]
  | cons first rest ih =>
    obtain ⟨n, old⟩ := first
    unfold put
    by_cases hn : n = name
    · subst hn
      by_cases ho : other = n
      · simp [ho]
      · simp [List.lookup_cons, ho, beq_false_of_ne ho]
    · by_cases ho : other = n
      · subst ho
        simp [hn]
      · rw [if_neg hn, List.lookup_cons, List.lookup_cons, beq_false_of_ne ho]
        exact ih

theorem collection_update (place : Namespace) (f : SandboxCollection → SandboxCollection) :
    (s.update place f).collection place = f (s.collection place) := by
  rw [collection, update, lookup_put, if_pos rfl]
  rfl

theorem collection_update_of_ne {place other : Namespace} (h : other.fullName ≠ place.fullName)
    (f : SandboxCollection → SandboxCollection) :
    (s.update place f).collection other = s.collection other := by
  rw [collection, update, lookup_put, if_neg h]
  rfl

/-- Collections are told apart by their full names. -/
theorem collection_congr {place other : Namespace} (h : other.fullName = place.fullName) :
    s.collection other = s.collection place := by
  rw [collection, collection, h]

/-- What leaves is listed, in every collection. -/
def Sound (name : String) (s : Sandbox τ) : Prop := ∀ place, (s.collection place).Sound name

def view (name : String) : IndexView (Sandbox τ) :=
  fun s place => (s.collection place).presence name

variable {name : String} {place : Namespace} {f : SandboxCollection → SandboxCollection}

theorem Sound.update (hs : s.Sound name) (hf : (f (s.collection place)).Sound name) :
    (s.update place f).Sound name := by
  intro other
  by_cases ho : other.fullName = place.fullName
  · rw [collection_congr ho, collection_update]
    exact hf
  · rw [collection_update_of_ne ho]
    exact hs other

theorem driftsApart_update : (view name).DriftsApart place s (s.update place f) := by
  intro other ho
  refine .inl ?_
  rw [view, collection_update_of_ne ho]
  rfl

theorem drifts_update (hf : ((s.collection place).presence name).Becomes
    ((f (s.collection place)).presence name)) : (view name).Drifts s (s.update place f) := by
  intro other
  by_cases ho : other.fullName = place.fullName
  · rw [view, view, collection_congr ho, collection_congr ho, collection_update]
    exact hf
  · exact driftsApart_update other ho

/-- A sleep moves nothing but the clock, and that only if it can. -/
theorem run_sleep [Clock τ] (span : τ) (s : Sandbox τ) :
    (sleep span).run s = match Clock.add s.clock span with
      | .ok later => (.ok (), { s with slept := span :: s.slept, clock := later })
      | .error fault => (.error fault, { s with slept := span :: s.slept }) := by
  unfold sleep
  rw [Action.run_bind_of_ok (Action.run_modify _ s), Action.run_bind_of_ok (Action.run_look _ _),
    Action.run_bind, Action.run_lift]
  cases Clock.add s.clock span <;> rfl

/-- The sandbox as a deployment, with a clock whose readings stay readable. -/
def deployment [Clock τ] (name : String) (Readable : τ → Prop)
    (hadd : ∀ reading span later, Readable reading → Clock.add reading span = .ok later →
      Readable later) : Deployment (service : IndexService (Sandbox τ) τ) name where
  Valid s := s.Sound name ∧ Readable s.clock
  presence := view name
  list := by
    intro s ⟨hs, hr⟩ place
    refine ⟨_, _, rfl, ⟨hs.update (hs place).afterListing, hr⟩,
      drifts_update (hs place).becomes_afterListing, ?_⟩
    rw [List.filter_eq_nil_iff, view, SandboxCollection.presence_eq_gone_iff,
      SandboxCollection.isListed, List.any_eq_false]
  create := by
    intro s ⟨hs, hr⟩ place definition hp
    refine ⟨_, rfl, ⟨hs.update fun _ => SandboxCollection.isListed_create definition, hr⟩,
      driftsApart_update, ?_⟩
    rw [view, collection_update]
    exact (hs place).presence_create hp definition
  drop := by
    intro s ⟨hs, hr⟩ place hp
    refine ⟨_, rfl, ⟨hs.update (SandboxCollection.sound_drop hp), hr⟩, driftsApart_update, ?_⟩
    rw [view, collection_update]
    exact SandboxCollection.presence_drop
  sleep := by
    intro s ⟨hs, hr⟩ span
    show (((sleep span).run s).2.Sound name ∧ Readable ((sleep span).run s).2.clock) ∧
      (view name).Drifts s ((sleep span).run s).2
    rw [run_sleep]
    cases ha : Clock.add s.clock span with
    | ok later => exact ⟨⟨hs, hadd _ _ _ hr ha⟩, .refl s⟩
    | error fault => exact ⟨⟨hs, hr⟩, .refl s⟩

/-- The sandbox as a deployment, with a clock of which nothing is asked. -/
def plainDeployment [Clock τ] (name : String) :
    Deployment (service : IndexService (Sandbox τ) τ) name :=
  deployment name (fun _ => True) fun _ _ _ _ _ => trivial

theorem deployment_timed [Clock τ] {Readable : τ → Prop}
    {hadd : ∀ reading span later, Readable reading → Clock.add reading span = .ok later →
      Readable later} : (deployment name Readable hadd).Timed where
  list _ _ := rfl
  create _ _ _ := rfl
  drop _ _ := rfl
  sleep := by
    intro s _ span later ha
    show ((sleep span).run s).1 = .ok () ∧ ((sleep span).run s).2.clock = later
    rw [run_sleep, show Clock.add s.clock span = .ok later from ha]
    exact ⟨rfl, rfl⟩

/-- Nothing is leaving at first. -/
theorem sound_new [Clock τ] {collections : List (String × SandboxCollection)}
    (h : ∀ entry ∈ collections, entry.2.leaving = []) :
    (new collections : Sandbox τ).Sound name := by
  intro place hl
  have hleaving : ((new collections : Sandbox τ).collection place).leaving = [] := by
    unfold collection new
    cases hc : collections.lookup place.fullName with
    | none => rfl
    | some c =>
      obtain ⟨before, after, hm, -⟩ := List.lookup_eq_some_iff.mp hc
      exact h (place.fullName, c) (by simp [hm])
  rw [SandboxCollection.isLeaving, hleaving] at hl
  cases hl

/-! ## A sandbox of the sample data -/

/-- Index work on the sample collections of a sandbox. -/
def sampleWork [Clock τ] (poll : τ) : IndexWork (Sandbox τ) τ where
  service := service
  settings := {
    address := "mongodb://localhost:27017"
    indexName := "default"
    movies := ⟨"sample_mflix", "movies"⟩
    listings := ⟨"sample_airbnb", "listingsAndReviews"⟩ }
  poll := poll

/-- The sample data with an index of the movies that lingers once it is dropped. -/
def lingering [Clock τ] (linger : Linger) : Sandbox τ :=
  new [("sample_mflix.movies", .ofIndexes [[("name", .str "default")]] linger)]

theorem lingering_sound [Clock τ] (linger : Linger) : (lingering linger : Sandbox τ).Sound name :=
  sound_new (by simp [SandboxCollection.ofIndexes])

theorem sampleWork_distinct [Clock τ] (poll : τ) :
    (sampleWork poll).settings.movies.fullName ≠ (sampleWork poll).settings.listings.fullName := by
  show "sample_mflix" ++ "." ++ "movies" ≠ "sample_airbnb" ++ "." ++ "listingsAndReviews"
  decide

end Sandbox
end DocSearch
