import DocSearch.Proofs.Index.Rebuild

/-! # How long a drop is waited for

On an exact clock a wait looks at the multiples of the poll. It ends with the first look that does
not list the index, or else with the first one that is not before the deadline. Both are found by
counting polls, so the whole record of a wait is known in advance: `polling` writes it down, and a
wait is shown to leave exactly that. The bound on the sleeps that the wait is run with is never
reached; any larger one gives the same wait. -/

namespace DocSearch

/-- The sleeps on record. -/
def IndexLog.sleeps {τ : Type} (log : IndexLog τ) : List τ :=
  log.filterMap fun e =>
    match e.call with
    | .sleep span => some span
    | _ => none

namespace IndexWork

variable {σ : Type} {w : IndexWork σ Rat} {place : Namespace} {s : σ}

/-- Whether an instant, if there is one, has come. -/
def hasCome (instant : Option Rat) (time : Rat) : Bool := instant.any fun g => decide (g ≤ time)

/-- In the states `During` an index is being deleted. A look lists it until the instant of its
deletion, if there is one, and not from then on. A sleep moves the clock by what is slept, and a
look does not move it. -/
structure Deletion (w : IndexWork σ Rat) (place : Namespace) (instant : Option Rat)
    (During : σ → Prop) : Prop where
  look : ∀ {s}, During s → ∃ found s',
    (w.service.list place w.settings.indexName).run s = (.ok found, s') ∧ During s' ∧
    w.service.now s' = w.service.now s ∧ found.isEmpty = hasCome instant (w.service.now s)
  sleep : ∀ {s}, During s → ∃ s', (w.service.sleep w.poll).run s = (.ok (), s') ∧ During s' ∧
    w.service.now s' = w.service.now s + w.poll

/-! ## The record of a wait -/

/-- The record of a wait from a reading of the clock on that sleeps `n` times: each sleep comes
after a look that lists the index, and a last look tells whether it is gone. -/
def polling (w : IndexWork σ Rat) (place : Namespace) (gone : Bool) : Rat → Nat → IndexLog Rat
  | time, 0 => [⟨time, .look place w.settings.indexName !gone⟩]
  | time, n + 1 =>
    ⟨time, .look place w.settings.indexName true⟩ :: ⟨time, .sleep w.poll⟩ ::
      polling w place gone (time + w.poll) n

variable {gone : Bool} {time : Rat} {n : Nat}

theorem sleeps_polling : (polling w place gone time n).sleeps = List.replicate n w.poll := by
  induction n generalizing time with
  | zero => rfl
  | succ n ih =>
    rw [List.replicate_succ, ← ih]
    rfl

theorem looks_polling : (polling w place gone time n).looks place w.settings.indexName
    = ((List.range n).map fun k : Nat => (time + k * w.poll, true))
      ++ [(time + n * w.poll, !gone)] := by
  induction n generalizing time with
  | zero => simp [polling, IndexLog.looks]
  | succ n ih =>
    have later (k : Nat) : time + w.poll + k * w.poll = time + (k + 1 : Nat) * w.poll := by
      push_cast
      ring
    rw [polling, IndexLog.looks_cons_look, IndexLog.looks_cons_sleep, ih, List.range_succ_eq_map]
    simp [later]

theorem onlyLooks_polling :
    (polling w place gone time n).OnlyLooks place w.settings.indexName := by
  induction n generalizing time with
  | zero =>
    intro e he
    rw [List.mem_singleton.mp he]
    exact .inl ⟨_, rfl⟩
  | succ n ih =>
    intro e he
    rcases List.mem_cons.mp he with rfl | he
    · exact .inl ⟨_, rfl⟩
    · rcases List.mem_cons.mp he with rfl | he
      · exact .inr ⟨_, rfl⟩
      · exact ih e he

/-! ## The wait itself -/

variable {instant : Option Rat} {During : σ → Prop} {deadline : Rat}

theorem Deletion.isGone (h : w.Deletion place instant During) (hs : During s) : ∃ s',
    Records (w.isGone place) (w.recorded.isGone place) s
      [⟨w.service.now s, .look place w.settings.indexName !hasCome instant (w.service.now s)⟩]
      (.ok (hasCome instant (w.service.now s))) s' ∧
    During s' ∧ w.service.now s' = w.service.now s := by
  obtain ⟨found, s', hr, hs', hnow, hfound⟩ := h.look hs
  refine ⟨s', ?_, hs', hnow⟩
  rw [← hfound]
  have hfind := records_find hr
  cases found with
  | nil => exact hfind.bind (.pure true s')
  | cons first rest => exact hfind.bind (.pure false s')

/-- A wait whose first look that is not in vain, or not in time, is the one after `n` polls. With
that many sleeps or more to spend, it spends just them. -/
theorem Deletion.waitUntil (h : w.Deletion place instant During) (hs : During s)
    (hlisted : ∀ k : Nat, k < n → hasCome instant (w.service.now s + k * w.poll) = false)
    (hearly : ∀ k : Nat, k < n → w.service.now s + k * w.poll < deadline)
    (hend : hasCome instant (w.service.now s + n * w.poll) = true
      ∨ deadline ≤ w.service.now s + n * w.poll) :
    ∃ s', w.service.now s' = w.service.now s + n * w.poll ∧ ∀ fuel, n ≤ fuel →
      Records (w.waitUntil place deadline fuel) (w.recorded.waitUntil place deadline fuel) s
        (polling w place (hasCome instant (w.service.now s + n * w.poll)) (w.service.now s) n)
        (.ok (hasCome instant (w.service.now s + n * w.poll))) s' := by
  induction n generalizing s with
  | zero =>
    obtain ⟨s', hr, -, hnow⟩ := h.isGone hs
    simp only [Nat.cast_zero, zero_mul, add_zero] at hend ⊢
    refine ⟨s', hnow, fun fuel _ => ?_⟩
    cases fuel with
    | zero => exact hr
    | succ fuel =>
      refine .after (.look w.service s) ?_
      by_cases hlt : w.service.now s < deadline
      · -- before the deadline only a look that does not list the index ends the wait
        have htick : Clock.lt (w.service.now s) deadline = true := decide_eq_true hlt
        have hcome : hasCome instant (w.service.now s) = true := hend.resolve_right (not_le.mpr hlt)
        rw [hcome] at hr ⊢
        rw [if_pos htick, if_pos htick]
        exact hr.bind (.pure true s')
      · have htick : ¬ Clock.lt (w.service.now s) deadline = true :=
          fun h => hlt (of_decide_eq_true h)
        rw [if_neg htick, if_neg htick]
        exact hr
  | succ n ih =>
    obtain ⟨s₁, hr, hs₁, hnow₁⟩ := h.isGone hs
    obtain ⟨s₂, hsleep, hs₂, hnow₂⟩ := h.sleep hs₁
    have hnow : w.service.now s₂ = w.service.now s + w.poll := by rw [hnow₂, hnow₁]
    have later (k : Nat) :
        w.service.now s₂ + k * w.poll = w.service.now s + (k + 1 : Nat) * w.poll := by
      rw [hnow]
      push_cast
      ring
    have hnot : hasCome instant (w.service.now s) = false := by
      simpa using hlisted 0 (Nat.succ_pos n)
    have hlt : w.service.now s < deadline := by simpa using hearly 0 (Nat.succ_pos n)
    have htick : Clock.lt (w.service.now s) deadline = true := decide_eq_true hlt
    have hslept := Records.sleep hsleep
    obtain ⟨s', hnow', hrest⟩ := ih hs₂
      (fun k hk => by rw [later]; exact hlisted (k + 1) (by omega))
      (fun k hk => by rw [later]; exact hearly (k + 1) (by omega)) (by rw [later]; exact hend)
    rw [later] at hrest hnow'
    rw [hnot] at hr
    rw [hnow₁] at hslept
    rw [hnow] at hrest
    refine ⟨s', hnow', fun fuel hfuel => ?_⟩
    obtain ⟨fuel, rfl⟩ : ∃ m, fuel = m + 1 := ⟨fuel - 1, by omega⟩
    refine .after (.look w.service s) ?_
    rw [if_pos htick, if_pos htick]
    exact hr.bind (hslept.bind (hrest fuel (by omega)))

/-! ## Counting the polls -/

/-- How often a wait sleeps for an index that is gone after a delay, or never. -/
def naps (poll span : Rat) : Option Rat → Nat
  | none => ⌈span / poll⌉₊
  | some delay => min ⌈delay / poll⌉₊ ⌈span / poll⌉₊

section Naps

variable {poll span start : Rat} {delay : Option Rat} {k : Nat}

theorem naps_le : naps poll span delay ≤ ⌈span / poll⌉₊ := by
  cases delay with
  | none => exact Nat.le_refl _
  | some delay => exact Nat.min_le_right _ _

theorem lt_ceil_iff (hp : 0 < poll) : k < ⌈span / poll⌉₊ ↔ k * poll < span := by
  rw [Nat.lt_ceil, lt_div_iff₀ hp]

theorem ceil_le_iff (hp : 0 < poll) : ⌈span / poll⌉₊ ≤ k ↔ span ≤ k * poll := by
  rw [Nat.ceil_le, div_le_iff₀ hp]

theorem hasCome_shift {time : Rat} : hasCome (delay.map (start + ·)) (start + time) = true
    ↔ ∃ g, delay = some g ∧ g ≤ time := by
  cases delay with
  | none => simp [hasCome]
  | some delay => simp [hasCome]

/-- The sleeps before the last are in vain: the index is listed when they begin. -/
theorem not_hasCome_of_lt_naps (hp : 0 < poll) (hk : k < naps poll span delay) :
    hasCome (delay.map (start + ·)) (start + k * poll) = false := by
  refine Bool.eq_false_iff.mpr fun hcome => ?_
  obtain ⟨g, rfl, hg⟩ := hasCome_shift.mp hcome
  have hlt : k < ⌈g / poll⌉₊ := Nat.lt_of_lt_of_le hk (Nat.min_le_left _ _)
  exact absurd hg (not_le.mpr ((lt_ceil_iff hp).mp hlt))

/-- After the sleeps the index is gone or the time is over. -/
theorem naps_enough (hp : 0 < poll) :
    hasCome (delay.map (start + ·)) (start + naps poll span delay * poll) = true
      ∨ naps poll span delay = ⌈span / poll⌉₊ := by
  cases delay with
  | none => exact .inr rfl
  | some g =>
    rcases Nat.le_total ⌈g / poll⌉₊ ⌈span / poll⌉₊ with hle | hle
    · refine .inl (hasCome_shift.mpr ⟨g, rfl, ?_⟩)
      rw [naps, Nat.min_eq_left hle]
      exact (ceil_le_iff hp).mp (Nat.le_refl _)
    · exact .inr (Nat.min_eq_right hle)

/-- The last look finds the index gone exactly if it is gone by the last instant at which the wait
could look at all. -/
theorem hasCome_naps (hp : 0 < poll) :
    hasCome (delay.map (start + ·)) (start + naps poll span delay * poll) = true
      ↔ ∃ g, delay = some g ∧ g ≤ ⌈span / poll⌉₊ * poll := by
  rw [hasCome_shift]
  constructor
  · rintro ⟨g, rfl, hg⟩
    refine ⟨g, rfl, (ceil_le_iff hp).mp ?_⟩
    exact Nat.le_trans ((ceil_le_iff hp).mpr hg) naps_le
  · rintro ⟨g, rfl, hg⟩
    refine ⟨g, rfl, (ceil_le_iff hp).mp ?_⟩
    exact Nat.le_min.mpr ⟨Nat.le_refl _, (ceil_le_iff hp).mpr hg⟩

/-- A wait is over before one more poll than there is time for. -/
theorem naps_mul_lt (hp : 0 < poll) (hspan : 0 < span) :
    naps poll span delay * poll < span + poll := by
  cases hn : naps poll span delay with
  | zero =>
    rw [Nat.cast_zero, zero_mul]
    linarith
  | succ n =>
    have hle : naps poll span delay ≤ ⌈span / poll⌉₊ := naps_le
    have hlt : n < ⌈span / poll⌉₊ := by omega
    have hlast : n * poll < span := (lt_ceil_iff hp).mp hlt
    push_cast
    linarith

end Naps

/-! ## Exactness -/

/-- How a wait goes for an index that is gone after a delay, or never. -/
structure Polls (w : IndexWork σ Rat) (place : Namespace) (span : Rat) (delay : Option Rat)
    (start : Rat) (log : IndexLog Rat) (gone : Bool) (finish : Rat) : Prop where
  gone_iff : gone = true ↔ ∃ g, delay = some g ∧ g ≤ ⌈span / w.poll⌉₊ * w.poll
  /-- It looks at the multiples of the poll, each time but the last in vain. -/
  looks : log.looks place w.settings.indexName
    = ((List.range (naps w.poll span delay)).map fun k : Nat => (start + k * w.poll, true))
      ++ [(start + naps w.poll span delay * w.poll, !gone)]
  /-- These are in time, but for one more if none of them found the index gone. -/
  inTime : ∀ k : Nat, k ≤ naps w.poll span delay → k * w.poll < span ∨ k = ⌈span / w.poll⌉₊
  sleeps : log.sleeps = List.replicate (naps w.poll span delay) w.poll
  onlyLooks : log.OnlyLooks place w.settings.indexName
  finish_eq : finish = start + naps w.poll span delay * w.poll
  finish_lt : finish < start + span + w.poll

/-- A wait for an index that is being deleted goes on for as long as it takes to see it gone, or to
pass the deadline, whatever bound is put on its sleeps as long as it reaches to the deadline. A drop
that is not to wait looks, drops what is listed, and does nothing else. -/
theorem waits_out_deletion (w : IndexWork σ Rat) (hp : 0 < w.poll) :
    (∀ place span delay During s, 0 < span →
      w.Deletion place (delay.map (w.service.now s + ·)) During → During s →
      ∃ log gone s',
        Records (w.waitUntilGone place span) (w.recorded.waitUntilGone place span) s log
          (.ok gone) s' ∧
        w.Polls place span delay (w.service.now s) log gone (w.service.now s') ∧
        ∀ fuel, ⌈span / w.poll⌉₊ ≤ fuel →
          Records (w.waitUntil place (w.service.now s + span) fuel)
            (w.recorded.waitUntil place (w.service.now s + span) fuel) s log (.ok gone) s') ∧
    ∀ target span, span ≤ 0 → w.drop span target = (do
      match ← w.find (target.place w.settings) with
      | none => return true
      | some _ =>
        w.service.drop (target.place w.settings) w.settings.indexName
        return true) := by
  constructor
  · intro place span delay During s hspan h hs
    have hlisted : ∀ k : Nat, k < naps w.poll span delay →
        hasCome (delay.map (w.service.now s + ·)) (w.service.now s + k * w.poll) = false :=
      fun k hk => not_hasCome_of_lt_naps hp hk
    have hearly : ∀ k : Nat, k < naps w.poll span delay →
        w.service.now s + k * w.poll < w.service.now s + span := fun k hk => by
      have hlt : k * w.poll < span := (lt_ceil_iff hp).mp (Nat.lt_of_lt_of_le hk naps_le)
      linarith
    have hend : hasCome (delay.map (w.service.now s + ·))
          (w.service.now s + naps w.poll span delay * w.poll) = true
        ∨ w.service.now s + span ≤ w.service.now s + naps w.poll span delay * w.poll :=
      (naps_enough hp).imp_right fun hn => by
        have hle : span ≤ naps w.poll span delay * w.poll :=
          (ceil_le_iff hp).mp (Nat.le_of_eq hn.symm)
        linarith
    obtain ⟨s', hnow, hwait⟩ := h.waitUntil hs hlisted hearly hend
    have hrounds : ⌈span / w.poll⌉₊ ≤ Clock.rounds span w.poll :=
      (ceil_le_iff hp).mpr (span_le_rounds hp)
    refine ⟨_, _, s', ?_, ?_, fun fuel hfuel => hwait fuel (Nat.le_trans naps_le hfuel)⟩
    · refine .after (.look w.service s) (.after (.lift rfl s) ?_)
      exact hwait _ (Nat.le_trans naps_le hrounds)
    · exact {
        gone_iff := hasCome_naps hp
        looks := looks_polling
        inTime := fun k hk => by
          rcases Nat.lt_or_eq_of_le (Nat.le_trans hk naps_le) with hlt | heq
          · exact .inl ((lt_ceil_iff hp).mp hlt)
          · exact .inr heq
        sleeps := sleeps_polling
        onlyLooks := onlyLooks_polling
        finish_eq := hnow
        finish_lt := by
          have hlast : naps w.poll span delay * w.poll < span + w.poll := naps_mul_lt hp hspan
          rw [hnow]
          linarith }
  · intro target span hspan
    have hnot : (Clock.isPositive span : Except Fault Bool) = .ok false :=
      congrArg Except.ok (decide_eq_false (not_lt.mpr hspan))
    unfold drop
    rw [hnot]
    rfl

/-- A service whose only state is its clock. The one index it ever listed is gone from an instant
on. -/
def fading (instant : Rat) : IndexService Rat Rat where
  list _ name := do
    let now ← Action.look id
    return if instant ≤ now then [] else [[("name", .str name)]]
  create _ _ _ := pure ()
  drop _ _ := pure ()
  now := id
  sleep span := Action.modify (· + span)

/-- Work with such a service that polls it every two seconds. -/
def fadingWork (instant : Rat) : IndexWork Rat Rat where
  service := fading instant
  settings := (Sandbox.sampleWork (2 : Rat)).settings
  poll := 2

theorem fadingWork_deletion (g : Rat) :
    (fadingWork g).Deletion place (some g) fun _ => True where
  look {s} _ := by
    refine ⟨if g ≤ s then [] else [[("name", .str "default")]], s, rfl, trivial, rfl, ?_⟩
    change List.isEmpty _ = decide (g ≤ s)
    split <;> simp_all
  sleep {s} _ := ⟨s + 2, rfl, trivial, rfl⟩

/-- An index that is gone half a second after a deadline of five seconds is still seen to go: the
last look is a second late. -/
theorem waits_out_late_deletion : ∃ log,
    Records ((fadingWork (11 / 2)).waitUntilGone ⟨"sample_mflix", "movies"⟩ 5)
      ((fadingWork (11 / 2)).recorded.waitUntilGone ⟨"sample_mflix", "movies"⟩ 5) 0
      log (.ok true) 6 ∧
    log.sleeps = [2, 2, 2] := by
  have hp : (0 : Rat) < 2 := by norm_num
  have hspan : (0 : Rat) < 5 := by norm_num
  have h : (fadingWork (11 / 2)).Deletion ⟨"sample_mflix", "movies"⟩ (some (0 + 11 / 2))
      fun _ => True := by
    rw [zero_add]
    exact fadingWork_deletion (11 / 2)
  obtain ⟨log, gone, s', hr, hpolls, -⟩ := (waits_out_deletion (fadingWork (11 / 2)) hp).1
    ⟨"sample_mflix", "movies"⟩ 5 (some (11 / 2)) _ 0 hspan h trivial
  have hnaps : naps 2 5 (some (11 / 2)) = 3 := by decide +kernel
  have hdue : (11 / 2 : Rat) ≤ ⌈(5 : Rat) / 2⌉₊ * 2 := by decide +kernel
  have hgone : gone = true := hpolls.gone_iff.mpr ⟨11 / 2, rfl, hdue⟩
  have hfinish : s' = 0 + naps 2 5 (some (11 / 2)) * (2 : Rat) := hpolls.finish_eq
  have hsleeps : log.sleeps = List.replicate (naps 2 5 (some (11 / 2))) 2 := hpolls.sleeps
  rw [hnaps] at hfinish hsleeps
  have hs' : s' = 6 := by
    rw [hfinish]
    norm_num
  subst hgone hs'
  exact ⟨log, hr, hsleeps⟩

end IndexWork
end DocSearch
