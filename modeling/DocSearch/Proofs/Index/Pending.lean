import DocSearch.Proofs.Index.Sandbox
import DocSearch.Proofs.Index.Targets

/-! # Creating beside deletions under way

Index work of any kind keeps a deployment valid, whatever comes of it. Creating what is missing
never fails then, but what is listed is not missing: an index that is found while it is being
deleted is left as it is, and is gone once its deletion is completed. That is the only way in which
a creation that was answered favourably is lost. -/

namespace DocSearch

variable {σ τ α β : Type}

theorem Deployment.valid_bind {service : IndexService σ τ} {name : String}
    (d : Deployment service name) {x : Action σ α} {f : α → Action σ β} {s : σ}
    (hx : d.Valid (x.run s).2)
    (hf : ∀ a s', d.Valid s' → d.Valid ((f a).run s').2) : d.Valid ((x >>= f).run s).2 := by
  rw [Action.run_bind]
  rcases hr : x.run s with ⟨outcome, s'⟩
  rw [hr] at hx
  cases outcome with
  | ok a => exact hf a s' hx
  | error fault => exact hx

namespace IndexWork

variable [Clock τ] {w : IndexWork σ τ} {d : Deployment w.service w.settings.indexName}
  {place : Namespace} {target : Target} {targets : List Target} {s s' : σ} {span : τ}

/-! ## All work keeps a deployment valid -/

theorem valid_find (hs : d.Valid s) (place : Namespace) : d.Valid ((w.find place).run s).2 := by
  obtain ⟨found, s', h⟩ := exists_finds hs place
  rw [h.records.run]
  exact h.valid

omit [Clock τ] in
theorem valid_forEach {work : Target → Action σ α}
    (hw : ∀ t s, d.Valid s → d.Valid ((work t).run s).2) (hs : d.Valid s) (targets : List Target) :
    d.Valid ((forEach work targets).run s).2 := by
  induction targets generalizing s with
  | nil => exact hs
  | cons target rest ih =>
    refine d.valid_bind (hw target s hs) fun answer s' hs' => ?_
    exact d.valid_bind (ih hs') fun answers s'' hs'' => hs''

theorem valid_info (hs : d.Valid s) (target : Target) : d.Valid ((w.info target).run s).2 :=
  d.valid_bind (valid_find hs _) fun _ _ hs' => hs'

theorem valid_create (hs : d.Valid s) (skipExisting : Bool) (target : Target) :
    d.Valid ((w.create skipExisting target).run s).2 := by
  obtain ⟨found, s₁, h⟩ := exists_finds hs (target.place w.settings)
  cases found with
  | some found =>
    cases skipExisting with
    | true =>
      rw [h.create_skips.run]
      exact h.valid
    | false =>
      rw [h.create_refuses.run]
      exact h.valid
  | none =>
    cases hdef : target.definition with
    | ok definition =>
      obtain ⟨s', hr, hv, -⟩ := h.creates hdef skipExisting
      rw [hr.run]
      exact hv
    | error fault =>
      unfold create
      rw [Action.run_bind_of_ok h.records.run]
      dsimp only
      rw [hdef, Action.run_bind_of_error (Action.run_lift _ s₁)]
      exact h.valid

theorem valid_waitUntil (hs : d.Valid s) (place : Namespace) (deadline : τ) (fuel : Nat) :
    d.Valid ((w.waitUntil place deadline fuel).run s).2 := by
  have isGone : ∀ s, d.Valid s → d.Valid ((w.isGone place).run s).2 :=
    fun s hs => d.valid_bind (valid_find hs place) fun _ _ hs' => hs'
  induction fuel generalizing s with
  | zero => exact isGone s hs
  | succ fuel ih =>
    refine d.valid_bind hs fun now s₁ hs₁ => ?_
    split
    · refine d.valid_bind (isGone s₁ hs₁) fun gone s₂ hs₂ => ?_
      split
      · exact hs₂
      · exact d.valid_bind (d.sleep hs₂ w.poll).1 fun _ s₃ hs₃ => ih hs₃
    · exact isGone s₁ hs₁

theorem valid_drop (hs : d.Valid s) (span : τ) (target : Target) :
    d.Valid ((w.drop span target).run s).2 := by
  obtain ⟨found, s₁, h⟩ := exists_finds hs (target.place w.settings)
  unfold drop
  dsimp only
  rw [Action.run_bind_of_ok h.records.run]
  cases found with
  | none => exact h.valid
  | some found =>
    -- only an index that is listed is dropped, which is all that a deployment promises to do
    obtain ⟨s₂, hl⟩ := exists_leaves h.valid fun hg => nomatch h.none_iff.mpr hg
    rw [Action.run_bind_of_ok hl.run]
    refine d.valid_bind hl.valid fun positive s₃ hs₃ => ?_
    cases positive with
    | false => exact hs₃
    | true =>
      refine d.valid_bind hs₃ fun now s₄ hs₄ => ?_
      exact d.valid_bind hs₄ fun deadline s₅ hs₅ => valid_waitUntil hs₅ _ deadline _

theorem valid_recreateAll (hs : d.Valid s) (span : τ) : d.Valid ((w.recreateAll span).run s).2 := by
  have hdropped : d.Valid ((w.dropAll span).run s).2 :=
    valid_forEach (fun t _ hs => valid_drop hs span t) hs _
  refine d.valid_bind hdropped fun dropped s' hs' => ?_
  split
  · exact valid_forEach (fun t _ hs => valid_create hs false t) hs' _
  · exact hs'

theorem valid_perform (hs : d.Valid s) (operation : IndexOperation τ) :
    d.Valid ((w.perform operation).run s).2 := by
  cases operation with
  | status => exact d.valid_bind (valid_forEach (fun t _ hs => valid_info hs t) hs _) fun _ _ h => h
  | info target => exact d.valid_bind (valid_info hs target) fun _ _ h => h
  | create target skip => exact d.valid_bind (valid_create hs skip target) fun _ _ h => h
  | createAll skip =>
    exact d.valid_bind (valid_forEach (fun t _ hs => valid_create hs skip t) hs _) fun _ _ h => h
  | drop target span => exact d.valid_bind (valid_drop hs span target) fun _ _ h => h
  | dropAll span =>
    exact d.valid_bind (valid_forEach (fun t _ hs => valid_drop hs span t) hs _) fun _ _ h => h
  | recreateAll span => exact d.valid_bind (valid_recreateAll hs span) fun _ _ h => h

/-- The state after some work, whatever comes of each piece of it. -/
def performAll (w : IndexWork σ τ) (operations : List (IndexOperation τ)) (s : σ) : σ :=
  operations.foldl (fun s operation => ((w.perform operation).run s).2) s

theorem valid_performAll (hs : d.Valid s) (operations : List (IndexOperation τ)) :
    d.Valid (w.performAll operations s) := by
  unfold performAll
  induction operations generalizing s with
  | nil => exact hs
  | cons operation rest ih => exact ih (valid_perform hs operation)

/-! ## What becomes of a creation -/

/-- A look for the index of a collection finds one that is being deleted. -/
def FindsLeaving (w : IndexWork σ τ) (d : Deployment w.service w.settings.indexName) (s : σ)
    (place : Namespace) : Prop :=
  ∃ found s', (w.find place).run s = (.ok (some found), s') ∧ d.presence s' place = .leaving

theorem create_stands_iff {definition : Document} (hs : d.Valid s)
    (hdef : target.definition = .ok definition) :
    ∃ s', (w.create true target).run s = (.ok true, s') ∧ d.Valid s' ∧
      d.presence.DriftsApart (target.place w.settings) s s' ∧
      (d.presence s' (target.place w.settings) = .standing ↔
        ¬ w.FindsLeaving d s (target.place w.settings)) := by
  obtain ⟨found, s₁, h⟩ := exists_finds hs (target.place w.settings)
  cases found with
  | some found =>
    refine ⟨s₁, h.create_skips.run, h.valid, h.drifts.apart _, ?_⟩
    have hlisted : d.presence s₁ (target.place w.settings) ≠ .gone :=
      fun hg => nomatch h.none_iff.mpr hg
    constructor
    · rintro hstanding ⟨found', s₂, hr, hleaving⟩
      rw [h.records.run] at hr
      cases hr
      rw [hstanding] at hleaving
      cases hleaving
    · intro hnot
      cases hp : d.presence s₁ (target.place w.settings) with
      | gone => exact absurd hp hlisted
      | standing => rfl
      | leaving => exact absurd ⟨found, s₁, h.records.run, hp⟩ hnot
  | none =>
    obtain ⟨s', hr, hv, ha, hstanding⟩ := h.creates hdef true
    refine ⟨s', hr.run, hv, ha, iff_of_true hstanding ?_⟩
    rintro ⟨found', s₂, hr, -⟩
    rw [h.records.run] at hr
    cases hr

omit [Clock τ] in
theorem forEach_cons_state {work : Target → Action σ α} {a : α} {s₁ : σ}
    (h : (work target).run s = (.ok a, s₁)) (rest : List Target) :
    ((forEach work (target :: rest)).run s).2 = ((forEach work rest).run s₁).2 := by
  rw [forEach, Action.run_bind_of_ok h, Action.run_bind]
  rcases (forEach work rest).run s₁ with ⟨outcome, s'⟩
  cases outcome <;> rfl

omit [Clock τ] in
/-- Work on some targets that went through goes on with the targets behind them. -/
theorem forEach_append_state {work : Target → Action σ α} {front : List Target}
    {answers : List (Target × α)} {s₁ : σ} (h : (forEach work front).run s = (.ok answers, s₁))
    (back : List Target) :
    ((forEach work (front ++ back)).run s).2 = ((forEach work back).run s₁).2 := by
  induction front generalizing s answers with
  | nil =>
    cases h
    rfl
  | cons target rest ih =>
    rcases first : (work target).run s with ⟨answer, s₂⟩
    cases answer with
    | error fault =>
      rw [forEach, Action.run_bind_of_error first] at h
      cases h
    | ok a =>
      rw [forEach, Action.run_bind_of_ok first, Action.run_bind] at h
      rcases others : (forEach work rest).run s₂ with ⟨outcome, s₃⟩
      rw [others] at h
      cases outcome with
      | error fault => cases h
      | ok found =>
        cases h
        rw [List.cons_append, forEach_cons_state first]
        exact ih others

/-- Where the indexes of targets stand after they are created is settled when each has its turn. -/
theorem forEach_create_stands_iff
    (hdef : ∀ t ∈ targets, ∃ definition, t.definition = .ok definition)
    (hd : w.Distinct targets) (hs : d.Valid s) :
    ∃ s', (forEach (w.create true) targets).run s = (.ok (targets.map fun t => (t, true)), s') ∧
      (∀ other : Namespace, (∀ t ∈ targets, other.fullName ≠ (t.place w.settings).fullName) →
        (d.presence s other).Becomes (d.presence s' other)) ∧
      ∀ before t after, targets = before ++ t :: after →
        (d.presence s' (t.place w.settings) = .standing ↔
          ¬ w.FindsLeaving d ((forEach (w.create true) before).run s).2 (t.place w.settings)) := by
  induction targets generalizing s with
  | nil => exact ⟨s, rfl, fun _ _ => .refl _, fun before t after h => by simp at h⟩
  | cons target rest ih =>
    obtain ⟨htarget, hd⟩ := List.pairwise_cons.mp hd
    obtain ⟨definition, hdefinition⟩ := hdef target List.mem_cons_self
    obtain ⟨s₁, hr, hv, ha, hstands⟩ := create_stands_iff hs hdefinition
    obtain ⟨s', hrs, hframe, hrest⟩ := ih (fun t ht => hdef t (List.mem_cons_of_mem _ ht)) hd hv
    refine ⟨s', ?_, ?_, ?_⟩
    · unfold forEach
      rw [Action.run_bind_of_ok hr, Action.run_bind_of_ok hrs]
      rfl
    · intro other ho
      exact (ha other (ho target List.mem_cons_self)).trans
        (hframe other fun t ht => ho t (List.mem_cons_of_mem _ ht))
    · intro before t after hsplit
      cases before with
      | nil =>
        obtain ⟨rfl, rfl⟩ := List.cons.inj hsplit
        exact (hframe _ htarget).standing_iff.trans hstands
      | cons first before =>
        obtain ⟨rfl, hafter⟩ := List.cons.inj hsplit
        rw [forEach_cons_state hr]
        exact hrest before t after hafter

/-- After any work, creating what is missing answers favourably for every target, and the index of a
target stays once all deletions are completed unless its turn found one that was being deleted. -/
theorem createAll_stays_iff (hs : d.Valid s)
    (hne : w.settings.movies.fullName ≠ w.settings.listings.fullName)
    (operations : List (IndexOperation τ)) :
    ∃ s', (w.createAll true).run (w.performAll operations s)
        = (.ok (Target.managed.map fun t => (t, true)), s') ∧
      ∀ before t after, Target.managed = before ++ t :: after →
        ((d.presence s' (t.place w.settings)).settled ≠ .gone ↔
          ¬ w.FindsLeaving d ((forEach (w.create true) before).run (w.performAll operations s)).2
            (t.place w.settings)) := by
  obtain ⟨s', hr, -, hstands⟩ := forEach_create_stands_iff definition_managed (distinct_managed hne)
    (valid_performAll hs operations)
  refine ⟨s', hr, fun before t after hsplit => ?_⟩
  rw [Presence.settled_ne_gone_iff]
  exact hstands before t after hsplit

theorem createAll_stays_in_sample : ∃ s',
    ((Sandbox.sampleWork 2).createAll true).run ((Sandbox.sampleWork 2).performAll
      [.dropAll (0 : Rat)] (Sandbox.lingering (.listings 1)))
        = (.ok [(.movies, true), (.listings, true)], s') ∧
    ((Sandbox.view "default" s' ⟨"sample_mflix", "movies"⟩).settled ≠ .gone ↔
      ¬ (Sandbox.sampleWork 2).FindsLeaving (Sandbox.plainDeployment "default")
        ((Sandbox.sampleWork 2).performAll [.dropAll (0 : Rat)] (Sandbox.lingering (.listings 1)))
        ⟨"sample_mflix", "movies"⟩) := by
  have hs : (Sandbox.plainDeployment "default").Valid
      (Sandbox.lingering (.listings 1) : Sandbox Rat) := ⟨Sandbox.lingering_sound _, trivial⟩
  obtain ⟨s', hr, hstays⟩ := createAll_stays_iff (w := Sandbox.sampleWork 2)
    (d := Sandbox.plainDeployment "default") hs (Sandbox.sampleWork_distinct 2) [.dropAll (0 : Rat)]
  exact ⟨s', hr, hstays [] .movies [.listings] rfl⟩

/-- A creation that is answered favourably and lost: the index was found while it was leaving, and
the next look finds none. -/
theorem created_and_lost : ∃ s',
    ((Sandbox.sampleWork 2).createAll true).run ((Sandbox.sampleWork 2).performAll
      [.dropAll (0 : Rat)] (Sandbox.lingering (.listings 1)))
        = (.ok [(.movies, true), (.listings, true)], s') ∧
    (Sandbox.view "default" s' ⟨"sample_mflix", "movies"⟩).settled = .gone ∧
    (((Sandbox.sampleWork (2 : Rat)).find ⟨"sample_mflix", "movies"⟩).run s').1 = .ok none :=
  ⟨_, rfl, rfl, rfl⟩

end IndexWork
end DocSearch
