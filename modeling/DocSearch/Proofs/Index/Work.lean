import DocSearch.Proofs.Index.Deployment
import DocSearch.Proofs.Index.Record

/-! # Index work step by step

What each piece of work on one index does on a deployment, with the entries it adds to a record.
Everything starts with a look: `Finds` is what one look does. A wait is a number of looks and sleeps
that follow one another as `Waits` says; what a wait comes to is read off it by induction. -/

namespace DocSearch

namespace IndexWork

variable {σ τ : Type} [Clock τ] {w : IndexWork σ τ}
  {d : Deployment w.service w.settings.indexName} {place : Namespace} {target : Target}
  {s s' s₁ s₂ : σ} {entries : IndexLog τ} {b : Bool}

/-- An entry of looking for the managed index of a collection. -/
def looked (w : IndexWork σ τ) (place : Namespace) (s : σ) (found : Bool) : IndexEntry τ :=
  ⟨w.service.now s, .look place w.settings.indexName found⟩

/-! ## Looking -/

omit [Clock τ] in
theorem records_find {found : List Document}
    (call : (w.service.list place w.settings.indexName).run s = (.ok found, s')) :
    Records (w.find place) (w.recorded.find place) s
      [⟨w.service.now s, .look place w.settings.indexName !found.isEmpty⟩] (.ok found.head?) s' :=
  (Records.list call).bind (.pure found.head? s')

/-- A look at an index that lists it or does not. -/
structure Finds (w : IndexWork σ τ) (d : Deployment w.service w.settings.indexName)
    (place : Namespace) (s : σ) (found : Option Document) (s' : σ) : Prop where
  records : Records (w.find place) (w.recorded.find place) s [w.looked place s found.isSome]
    (.ok found) s'
  valid : d.Valid s'
  drifts : d.presence.Drifts s s'
  none_iff : found = none ↔ d.presence s' place = .gone
  now : d.Timed → w.service.now s' = w.service.now s

theorem exists_finds (hs : d.Valid s) (place : Namespace) :
    ∃ found s', w.Finds d place s found s' := by
  obtain ⟨listed, s', hr, hv, hd, hn⟩ := d.list hs place
  have he : listed.head?.isSome = !listed.isEmpty := by cases listed <;> rfl
  refine ⟨listed.head?, s', ?_, hv, hd, ?_, fun ht => ?_⟩
  · rw [he]
    exact (Records.list hr).bind (Records.pure _ s')
  · rw [List.head?_eq_none_iff]
    exact hn
  · have h := ht.list hs place
    rw [hr] at h
    exact h

theorem Finds.isGone {found : Option Document} (h : w.Finds d place s found s') :
    Records (w.isGone place) (w.recorded.isGone place) s [w.looked place s found.isSome]
      (.ok found.isNone) s' :=
  h.records.bind (Records.pure _ s')

/-! ## Creating -/

theorem Finds.create_skips {found : Document}
    (h : w.Finds d (target.place w.settings) s (some found) s') :
    Records (w.create true target) (w.recorded.create true target) s
      [w.looked (target.place w.settings) s true] (.ok true) s' :=
  h.records.bind (Records.pure true s')

theorem Finds.create_refuses {found : Document}
    (h : w.Finds d (target.place w.settings) s (some found) s') :
    Records (w.create false target) (w.recorded.create false target) s
      [w.looked (target.place w.settings) s true] (.error (.indexExists w.settings.indexName)) s' :=
  h.records.bind (Records.fail _ s')

theorem Finds.creates {definition : Document} (h : w.Finds d (target.place w.settings) s none s₁)
    (hd : target.definition = .ok definition) (skipExisting : Bool) :
    ∃ s', Records (w.create skipExisting target) (w.recorded.create skipExisting target) s
        [w.looked (target.place w.settings) s false,
          ⟨w.service.now s₁, .create (target.place w.settings) w.settings.indexName definition⟩]
        (.ok true) s' ∧
      d.Valid s' ∧ d.presence.DriftsApart (target.place w.settings) s s' ∧
      d.presence s' (target.place w.settings) = .standing := by
  obtain ⟨s', hr, hv, ha, hp⟩ := d.create h.valid _ definition (h.none_iff.mp rfl)
  refine ⟨s', ?_, hv, (h.drifts.apart _).trans ha, hp⟩
  exact h.records.bind (.after (.lift hd s₁) ((Records.create hr).bind (.pure true s')))

/-! ## Waiting -/

/-- A wait for an index to be gone, with at most `n` sleeps: it is looked for, and looked for again
after a sleep as long as it is listed and the deadline has not passed. -/
inductive Waits (w : IndexWork σ τ) (d : Deployment w.service w.settings.indexName)
    (place : Namespace) (deadline : τ) : Nat → σ → IndexLog τ → Bool → σ → Prop
  | stop {n : Nat} {s s' : σ} {found : Option Document} : w.Finds d place s found s' →
      (found = none ∨ n = 0 ∨ Clock.lt (w.service.now s) deadline = false) →
      Waits w d place deadline n s [w.looked place s found.isSome] found.isNone s'
  | again {n : Nat} {s s₁ s₂ s' : σ} {found : Document} {entries : IndexLog τ} {b : Bool} :
      w.Finds d place s (some found) s₁ → Clock.lt (w.service.now s) deadline = true →
      (w.service.sleep w.poll).run s₁ = (.ok (), s₂) → Waits w d place deadline n s₂ entries b s' →
      Waits w d place deadline (n + 1) s
        (w.looked place s true :: ⟨w.service.now s₁, .sleep w.poll⟩ :: entries) b s'

/-- Sleeping between two looks does not fail. -/
def Sleeps (w : IndexWork σ τ) (d : Deployment w.service w.settings.indexName) : Prop :=
  ∀ s, d.Valid s → ((w.service.sleep w.poll).run s).1 = .ok ()

variable {deadline : τ} {n : Nat}

theorem exists_waits (hw : w.Sleeps d) (hs : d.Valid s) :
    ∃ entries b s', Records (w.waitUntil place deadline n) (w.recorded.waitUntil place deadline n) s
      entries (.ok b) s' ∧ Waits w d place deadline n s entries b s' := by
  induction n generalizing s with
  | zero =>
    obtain ⟨found, s', h⟩ := exists_finds hs place
    exact ⟨_, _, _, h.isGone, .stop h (.inr (.inl rfl))⟩
  | succ n ih =>
    obtain ⟨found, s₁, h⟩ := exists_finds hs place
    cases hlt : Clock.lt (w.service.now s) deadline with
    | false =>
      refine ⟨_, _, s₁, ?_, .stop h (.inr (.inr hlt))⟩
      refine .after (.look w.service s) ?_
      simp only [hlt]
      exact h.isGone
    | true =>
      cases found with
      | none =>
        refine ⟨_, _, s₁, ?_, .stop h (.inl rfl)⟩
        refine .after (.look w.service s) ?_
        simp only [hlt]
        exact h.isGone.bind (.pure true s₁)
      | some found =>
        have hsleep : (w.service.sleep w.poll).run s₁
            = (.ok (), ((w.service.sleep w.poll).run s₁).2) := Prod.ext (hw s₁ h.valid) rfl
        obtain ⟨entries, b, s', hr, hwait⟩ := ih (d.sleep h.valid w.poll).1
        refine ⟨_, b, s', ?_, .again h hlt hsleep hwait⟩
        refine .after (.look w.service s) ?_
        simp only [hlt]
        exact h.isGone.bind ((Records.sleep hsleep).bind hr)

namespace Waits

theorem valid (h : Waits w d place deadline n s entries b s') : d.Valid s' := by
  induction h with
  | stop h _ => exact h.valid
  | again _ _ _ _ ih => exact ih

theorem drifts (h : Waits w d place deadline n s entries b s') : d.presence.Drifts s s' := by
  induction h with
  | stop h _ => exact h.drifts
  | again h _ hsleep _ ih =>
    have slept := (d.sleep h.valid w.poll).2
    rw [hsleep] at slept
    exact (h.drifts.trans slept).trans ih

/-- The answer is what the last look tells. -/
theorem true_iff (h : Waits w d place deadline n s entries b s') :
    b = true ↔ d.presence s' place = .gone := by
  induction h with
  | stop h _ => rw [Option.isNone_iff_eq_none, h.none_iff]
  | again _ _ _ _ ih => exact ih

theorem onlyLooks (h : Waits w d place deadline n s entries b s') :
    entries.OnlyLooks place w.settings.indexName := by
  induction h with
  | stop h _ =>
    intro e he
    rw [List.mem_singleton.mp he]
    exact .inl ⟨_, rfl⟩
  | again _ _ _ _ ih =>
    intro e he
    rcases List.mem_cons.mp he with rfl | he
    · exact .inl ⟨_, rfl⟩
    · rcases List.mem_cons.mp he with rfl | he
      · exact .inr ⟨_, rfl⟩
      · exact ih e he

theorem last (h : Waits w d place deadline n s entries b s') :
    ∃ time, (entries.looks place w.settings.indexName).getLast? = some (time, !b) := by
  induction h with
  | @stop n s s' found h _ =>
    refine ⟨w.service.now s, ?_⟩
    rw [looked, IndexLog.looks_cons_look]
    cases found <;> rfl
  | again _ _ _ _ ih =>
    obtain ⟨time, ht⟩ := ih
    refine ⟨time, ?_⟩
    rw [looked, IndexLog.looks_cons_look, IndexLog.looks_cons_sleep, List.getLast?_cons, ht]
    rfl

/-- Only a wait that is given up sees the index listed when the deadline has passed. -/
theorem listed_late (h : Waits w d place deadline n s entries b s') {time : τ}
    (ht : (time, true) ∈ entries.looks place w.settings.indexName)
    (hl : Clock.lt time deadline = false) : b = false := by
  induction h with
  | @stop n s s' found h _ =>
    rw [looked, IndexLog.looks_cons_look] at ht
    cases found with
    | some found => rfl
    | none => cases List.mem_singleton.mp ht
  | again _ hlt _ _ ih =>
    rw [looked, IndexLog.looks_cons_look, IndexLog.looks_cons_sleep] at ht
    rcases List.mem_cons.mp ht with he | ht
    · cases he
      rw [hlt] at hl
      cases hl
    · exact ih ht

end Waits

/-! ## Dropping -/

/-- The index of a collection is dropped where it is listed. -/
structure Leaves (w : IndexWork σ τ) (d : Deployment w.service w.settings.indexName)
    (place : Namespace) (s s' : σ) : Prop where
  run : (w.service.drop place w.settings.indexName).run s = (.ok (), s')
  valid : d.Valid s'
  drifts : d.presence.DriftsApart place s s'
  now : d.Timed → w.service.now s' = w.service.now s

theorem exists_leaves (hs : d.Valid s) (hp : d.presence s place ≠ .gone) :
    ∃ s', w.Leaves d place s s' := by
  obtain ⟨s', hr, hv, ha, -⟩ := d.drop hs place hp
  refine ⟨s', hr, hv, ha, fun ht => ?_⟩
  have h := ht.drop hs place
  rw [hr] at h
  exact h

/-- The drop of one index, which is waited for if the span is positive. -/
inductive Drops (w : IndexWork σ τ) (d : Deployment w.service w.settings.indexName) (span : τ)
    (place : Namespace) : σ → IndexLog τ → Bool → σ → Prop
  | absent {s s' : σ} : w.Finds d place s none s' →
      Drops w d span place s [w.looked place s false] true s'
  | sent {s s₁ s' : σ} {found : Document} : w.Finds d place s (some found) s₁ →
      w.Leaves d place s₁ s' → Clock.isPositive span = .ok false →
      Drops w d span place s
        [w.looked place s true, ⟨w.service.now s₁, .drop place w.settings.indexName⟩] true s'
  | awaited {s s₁ s₂ s' : σ} {found : Document} {deadline : τ} {entries : IndexLog τ} {b : Bool} :
      w.Finds d place s (some found) s₁ → w.Leaves d place s₁ s₂ →
      Clock.isPositive span = .ok true → Clock.add (w.service.now s₂) span = .ok deadline →
      Waits w d place deadline (Clock.rounds span w.poll) s₂ entries b s' →
      Drops w d span place s
        (w.looked place s true :: ⟨w.service.now s₁, .drop place w.settings.indexName⟩ :: entries)
        b s'

/-- A span can be waited for: it can be compared with none and added to the reading of the clock. -/
structure Spans (w : IndexWork σ τ) (d : Deployment w.service w.settings.indexName) (span : τ)
    (positive : Bool) : Prop where
  sleeps : w.Sleeps d
  isPositive : Clock.isPositive span = .ok positive
  add : ∀ s, d.Valid s → ∃ deadline, Clock.add (w.service.now s) span = .ok deadline

variable {span : τ} {positive : Bool}

theorem exists_drops (hw : w.Spans d span positive) (hs : d.Valid s) (target : Target) :
    ∃ entries b s',
      Records (w.drop span target) (w.recorded.drop span target) s entries (.ok b) s' ∧
      w.Drops d span (target.place w.settings) s entries b s' := by
  obtain ⟨found, s₁, h⟩ := exists_finds hs (target.place w.settings)
  cases found with
  | none => exact ⟨_, _, s₁, h.records.bind (.pure true s₁), .absent h⟩
  | some found =>
    obtain ⟨s₂, hl⟩ := exists_leaves h.valid fun hg => nomatch h.none_iff.mpr hg
    cases positive with
    | false =>
      refine ⟨_, _, s₂, ?_, .sent h hl hw.isPositive⟩
      refine h.records.bind ((Records.drop hl.run).bind ?_)
      exact .after (.lift hw.isPositive s₂) (.pure true s₂)
    | true =>
      obtain ⟨deadline, ha⟩ := hw.add s₂ hl.valid
      obtain ⟨entries, b, s', hr, hwait⟩ := exists_waits hw.sleeps hl.valid
      refine ⟨_, b, s', ?_, .awaited h hl hw.isPositive ha hwait⟩
      have gone : Records (w.waitUntilGone (target.place w.settings) span)
          (w.recorded.waitUntilGone (target.place w.settings) span) s₂ entries (.ok b) s' :=
        .after (.look w.service s₂) (.after (.lift ha s₂) hr)
      exact h.records.bind ((Records.drop hl.run).bind (.after (.lift hw.isPositive s₂) gone))

namespace Drops

theorem valid (h : Drops w d span place s entries b s') : d.Valid s' := by
  cases h with
  | absent h => exact h.valid
  | sent _ hl _ => exact hl.valid
  | awaited _ _ _ _ hw => exact hw.valid

theorem drifts (h : Drops w d span place s entries b s') : d.presence.DriftsApart place s s' := by
  cases h with
  | absent h => exact h.drifts.apart place
  | sent h hl _ => exact (h.drifts.apart place).trans hl.drifts
  | awaited h hl _ _ hw =>
    exact ((h.drifts.apart place).trans hl.drifts).trans (hw.drifts.apart place)

theorem apart (h : Drops w d span place s entries b s') {other : Namespace} (ho : other ≠ place) :
    entries.Apart other := by
  have hne : some place ≠ some other := fun he => ho (Option.some.inj he).symm
  cases h with
  | absent h => exact .cons hne nofun
  | sent _ _ _ => exact .cons hne (.cons hne nofun)
  | awaited _ _ _ _ hw => exact .cons hne (.cons hne (hw.onlyLooks.apart ho))

theorem creates (h : Drops w d span place s entries b s') : entries.creates = [] := by
  cases h with
  | absent h => rfl
  | sent _ _ _ => rfl
  | awaited _ _ _ _ hw => exact hw.onlyLooks.creates

/-- The index is dropped once if it is listed, and else not at all. -/
theorem drops (h : Drops w d span place s entries b s') : entries.drops
    = if entries.listedFirst place w.settings.indexName then [(place, w.settings.indexName)]
      else [] := by
  unfold IndexLog.listedFirst
  cases h with
  | absent h =>
    rw [looked, IndexLog.looks_cons_look]
    rfl
  | sent _ _ _ =>
    rw [looked, IndexLog.looks_cons_look]
    rfl
  | awaited _ _ _ _ hw =>
    rw [looked, IndexLog.looks_cons_look]
    exact congrArg (_ :: ·) hw.onlyLooks.drops

theorem gone_or_dropped (h : Drops w d span place s entries b s') :
    d.presence s' place = .gone ∨ (place, w.settings.indexName) ∈ entries.drops := by
  cases h with
  | absent h => exact .inl (h.none_iff.mp rfl)
  | sent _ _ _ => exact .inr (.head _)
  | awaited _ _ _ _ _ => exact .inr (.head _)

/-- With a positive span, the answer is whether the index is gone. -/
theorem true_iff (h : Drops w d span place s entries b s') (hp : Clock.isPositive span = .ok true) :
    b = true ↔ d.presence s' place = .gone := by
  cases h with
  | absent h => exact iff_of_true rfl (h.none_iff.mp rfl)
  | sent _ _ hn => cases hp.symm.trans hn
  | awaited _ _ _ _ hw => exact hw.true_iff

/-- Without one, the answer is favourable. -/
theorem of_not_positive (h : Drops w d span place s entries b s')
    (hp : Clock.isPositive span = .ok false) : b = true := by
  cases h with
  | absent _ => rfl
  | sent _ _ _ => rfl
  | awaited _ _ hn _ _ => cases hp.symm.trans hn

theorem last (h : Drops w d span place s entries b s') (hp : Clock.isPositive span = .ok true) :
    ∃ time, (entries.looks place w.settings.indexName).getLast? = some (time, !b) := by
  cases h with
  | absent h => exact ⟨w.service.now s, by rw [looked, IndexLog.looks_cons_look]; rfl⟩
  | sent _ _ hn => cases hp.symm.trans hn
  | awaited _ _ _ _ hw =>
    obtain ⟨time, ht⟩ := hw.last
    refine ⟨time, ?_⟩
    rw [looked, IndexLog.looks_cons_look, IndexLog.looks_cons_drop, List.getLast?_cons, ht]
    rfl

end Drops
end IndexWork
end DocSearch
