import DocSearch.Proofs.Index.Sandbox
import DocSearch.Proofs.Index.Targets
import Mathlib.Algebra.Order.Field.Rat
import Mathlib.Data.Rat.Floor
import Mathlib.Tactic.Linarith

/-! # Rebuilding all indexes or none

A rebuild drops first and creates afterwards, and it creates nothing unless it has seen every
managed index gone. What a rebuild comes to is read off its record: which indexes were dropped,
which were created, and which outlasted the time they were given. -/

namespace DocSearch

namespace IndexWork

variable {σ τ : Type} [Clock τ] {w : IndexWork σ τ}
  {d : Deployment w.service w.settings.indexName} {span : τ} {positive : Bool}
  {targets : List Target} {s s' : σ} {log : IndexLog τ} {answers : List (Target × Bool)}

/-! ## Dropping all -/

/-- The drop of the index of a target. -/
def DropsOf (w : IndexWork σ τ) (d : Deployment w.service w.settings.indexName) (span : τ)
    (target : Target) : σ → IndexLog τ → Bool → σ → Prop :=
  w.Drops d span (target.place w.settings)

theorem dropsOf_local : Local w d (w.DropsOf d span) where
  valid h := Drops.valid h
  drifts h := Drops.drifts h
  apart h _ ho := Drops.apart h ho

theorem exists_dropAll (hw : w.Spans d span positive) (hs : d.Valid s) (targets : List Target) :
    ∃ log answers s', Records (forEach (w.drop span) targets)
      (forEach (w.recorded.drop span) targets) s log (.ok answers) s' ∧
      Each (w.DropsOf d span) targets s log answers s' :=
  exists_each dropsOf_local hs fun t _ _ hs => exists_drops hw hs t

theorem Each.no_creates (h : Each (w.DropsOf d span) targets s log answers s') :
    log.creates = [] := by
  induction h with
  | nil => rfl
  | cons h _ ih => rw [IndexLog.creates_append, Drops.creates h, ih, List.append_nil]

/-- The drops of the indexes that are listed when their turn comes. -/
def dropsDue (w : IndexWork σ τ) (targets : List Target) (log : IndexLog τ) :
    List (Namespace × String) :=
  (targets.filter fun t => log.listedFirst (t.place w.settings) w.settings.indexName).map
    fun t => (t.place w.settings, w.settings.indexName)

theorem Each.drops (hd : w.Distinct targets)
    (h : Each (w.DropsOf d span) targets s log answers s') :
    log.drops = w.dropsDue targets log := by
  induction h with
  | nil => rfl
  | @cons target rest s s₁ s' entries log b answers h hrest ih =>
    obtain ⟨htarget, hd⟩ := List.pairwise_cons.mp hd
    -- the looks for the index of a target are all in the part of the target
    have own : (entries ++ log).listedFirst (target.place w.settings) w.settings.indexName
        = entries.listedFirst (target.place w.settings) w.settings.indexName := by
      rw [IndexLog.listedFirst, IndexLog.looks_append,
        (hrest.frame dropsOf_local htarget).1.looks, List.append_nil]
      rfl
    have others : ∀ t ∈ rest, (entries ++ log).listedFirst (t.place w.settings) w.settings.indexName
        = log.listedFirst (t.place w.settings) w.settings.indexName := by
      intro t ht
      have hne : t.place w.settings ≠ target.place w.settings :=
        fun he => htarget t ht (congrArg Namespace.fullName he).symm
      rw [IndexLog.listedFirst, IndexLog.looks_append, (Drops.apart h hne).looks, List.nil_append]
      rfl
    rw [IndexLog.drops_append, Drops.drops h, ih hd, dropsDue, dropsDue, List.filter_cons, own,
      List.filter_congr others]
    split
    · rfl
    · rfl

/-- With a positive span, a favourable answer tells of an index that is gone, and stays so. -/
theorem Each.gone (hd : w.Distinct targets) (h : Each (w.DropsOf d span) targets s log answers s')
    (hp : Clock.isPositive span = .ok true) {t : Target} (hm : (t, true) ∈ answers) :
    d.presence s' (t.place w.settings) = .gone := by
  obtain ⟨s₀, before, entries, after, s₁, rfl, hdrop, -, -, hb⟩ := h.split dropsOf_local hd hm
  have hgone : d.presence s₁ (t.place w.settings) = .gone := (Drops.true_iff hdrop hp).mp rfl
  rw [hgone] at hb
  exact hb.of_gone

theorem Each.gone_or_dropped (hd : w.Distinct targets)
    (h : Each (w.DropsOf d span) targets s log answers s') {t : Target} {b : Bool}
    (hm : (t, b) ∈ answers) : d.presence s' (t.place w.settings) = .gone ∨
      (t.place w.settings, w.settings.indexName) ∈ log.drops := by
  obtain ⟨s₀, before, entries, after, s₁, rfl, hdrop, -, -, hb⟩ := h.split dropsOf_local hd hm
  rcases hdrop.gone_or_dropped with hgone | hdropped
  · rw [hgone] at hb
    exact .inl hb.of_gone
  · refine .inr ?_
    rw [IndexLog.drops_append, IndexLog.drops_append]
    exact List.mem_append_left _ (List.mem_append_right _ hdropped)

theorem Each.allDone_of_not_positive (h : Each (w.DropsOf d span) targets s log answers s')
    (hp : Clock.isPositive span = .ok false) : allDone answers = true := by
  induction h with
  | nil => rfl
  | cons h _ ih =>
    have hb : _ = true := Drops.of_not_positive h hp
    exact List.all_eq_true.mpr (List.forall_mem_cons.mpr ⟨hb, List.all_eq_true.mp ih⟩)

/-- With a positive span, every index is looked for last when its answer is clear. -/
theorem Each.last (hd : w.Distinct targets) (h : Each (w.DropsOf d span) targets s log answers s')
    (hp : Clock.isPositive span = .ok true) {t : Target} {b : Bool} (hm : (t, b) ∈ answers) :
    ∃ time, (log.looks (t.place w.settings) w.settings.indexName).getLast? = some (time, !b) := by
  obtain ⟨s₀, before, entries, after, s₁, rfl, hdrop, hb, ha, -⟩ := h.split dropsOf_local hd hm
  rw [IndexLog.looks_append, IndexLog.looks_append, hb.looks, ha.looks, List.append_nil]
  exact Drops.last hdrop hp

theorem mem_of_allDone (h : allDone answers = true) (ha : answers.map (·.1) = targets) {t : Target}
    (ht : t ∈ targets) : (t, true) ∈ answers := by
  rw [← ha] at ht
  obtain ⟨⟨t, b⟩, hm, rfl⟩ := List.mem_map.mp ht
  have hb : b = true := List.all_eq_true.mp h _ hm
  rw [hb] at hm
  exact hm

/-- What is looked for after the drops does not change what was listed first. -/
theorem Each.drops_append {more : IndexLog τ} (hd : w.Distinct targets)
    (hp : Clock.isPositive span = .ok true)
    (h : Each (w.DropsOf d span) targets s log answers s') (hdone : allDone answers = true)
    (hmore : more.drops = []) : (log ++ more).drops = w.dropsDue targets (log ++ more) := by
  rw [IndexLog.drops_append, hmore, List.append_nil, h.drops hd]
  refine congrArg (List.map _) (List.filter_congr fun t ht => ?_)
  obtain ⟨time, hlast⟩ := h.last hd hp (mem_of_allDone hdone h.targets_eq ht)
  exact (IndexLog.listedFirst_append hlast).symm

/-! ## Creating anew -/

/-- What is to be created for targets: an index of the configured name with the target's definition
in the target's collection. -/
def creations (w : IndexWork σ τ) (targets : List Target) :
    Except Fault (List (Namespace × String × Document)) :=
  targets.mapM fun t => t.definition.map fun definition =>
    (t.place w.settings, w.settings.indexName, definition)

omit [Clock τ] in
theorem creations_cons {target : Target} {definition : Document}
    (h : target.definition = .ok definition) (rest : List Target) :
    w.creations (target :: rest) = (w.creations rest).map
      ((target.place w.settings, w.settings.indexName, definition) :: ·) := by
  unfold creations
  rw [List.mapM_cons, h]
  cases hr : rest.mapM fun t => t.definition.map fun definition =>
      (t.place w.settings, w.settings.indexName, definition) <;> rfl

/-- All indexes are created, each after it was not listed. -/
structure CreatesAll (w : IndexWork σ τ) (targets : List Target) (log : IndexLog τ)
    (outcome : Except Fault (List (Target × Bool))) : Prop where
  outcome_eq : outcome = .ok (targets.map fun t => (t, true))
  creates : w.creations targets = .ok log.creates
  unlisted : ∀ place time, (time, true) ∉ log.looks place w.settings.indexName

/-- An index is listed when it should be created, which ends the work. -/
structure Refuses (w : IndexWork σ τ) (d : Deployment w.service w.settings.indexName)
    (targets : List Target) (s : σ) (log : IndexLog τ)
    (outcome : Except Fault (List (Target × Bool))) : Prop where
  outcome_eq : outcome = .error (.indexExists w.settings.indexName)
  listed : ∃ t ∈ targets, d.presence s (t.place w.settings) ≠ .gone ∧ ∃ time,
    (log.looks (t.place w.settings) w.settings.indexName).getLast? = some (time, true)

theorem exists_createAll (hdef : ∀ t ∈ targets, ∃ definition, t.definition = .ok definition)
    (hd : w.Distinct targets) (hs : d.Valid s) :
    ∃ outcome log s', Records (forEach (w.create false) targets)
      (forEach (w.recorded.create false) targets) s log outcome s' ∧ log.drops = [] ∧
      (w.CreatesAll targets log outcome ∨ w.Refuses d targets s log outcome) := by
  induction targets generalizing s with
  | nil => exact ⟨_, [], s, .pure [] s, rfl, .inl ⟨rfl, rfl, nofun⟩⟩
  | cons target rest ih =>
    obtain ⟨htarget, hd⟩ := List.pairwise_cons.mp hd
    obtain ⟨found, s₁, h⟩ := exists_finds hs (target.place w.settings)
    cases found with
    | some found =>
      refine ⟨_, _, s₁, (h.create_refuses).bind_error, rfl, .inr ⟨rfl, target, .head _, ?_, ?_⟩⟩
      · intro hg
        have hb := h.drifts (target.place w.settings)
        rw [hg] at hb
        exact nomatch h.none_iff.mpr hb.of_gone
      · exact ⟨w.service.now s, by rw [looked, IndexLog.looks_cons_look]; rfl⟩
    | none =>
      obtain ⟨definition, hdefinition⟩ := hdef target List.mem_cons_self
      obtain ⟨s₂, hr, hv, ha, -⟩ := h.creates hdefinition false
      obtain ⟨outcome, log, s', hrs, hdrops, hout⟩ :=
        ih (fun t ht => hdef t (List.mem_cons_of_mem _ ht)) hd hv
      rcases hout with ⟨rfl, hcreates, hunlisted⟩ | ⟨rfl, t, ht, hp, time, hlast⟩
      · have hlast := fun answers => Records.pure (σ := σ) (τ := τ) ((target, true) :: answers) s'
        refine ⟨_, _, s', hr.bind (hrs.bind (hlast _)), ?_, .inl ⟨rfl, ?_, ?_⟩⟩
        · rw [List.append_nil, IndexLog.drops_append, hdrops]
          rfl
        · rw [List.append_nil, creations_cons hdefinition, hcreates]
          rfl
        · intro place time hm
          rw [List.append_nil, IndexLog.mem_looks_iff] at hm
          rcases List.mem_append.mp hm with hm | hm
          · simp [looked] at hm
          · exact hunlisted place time (IndexLog.mem_looks_iff.mpr hm)
      · have hmem : t ∈ target :: rest := List.mem_cons_of_mem _ ht
        refine ⟨_, _, s', hr.bind hrs.bind_error, ?_, .inr ⟨rfl, t, hmem, ?_, time, ?_⟩⟩
        · rw [IndexLog.drops_append, hdrops]
          rfl
        · -- gone stays gone while another target is worked on
          intro hg
          have hb := ha (t.place w.settings) fun he => htarget t ht he.symm
          rw [hg] at hb
          exact hp hb.of_gone
        · rw [IndexLog.looks_append, List.getLast?_append, hlast]
          rfl

/-! ## The course of a rebuild -/

/-- The drops of a rebuild, and what is created if all of them are answered favourably. -/
inductive Rebuilds (w : IndexWork σ τ) (d : Deployment w.service w.settings.indexName) (span : τ)
    (s : σ) : IndexLog τ → Except Fault (List (Target × Bool)) → Prop
  | stopped {log : IndexLog τ} {answers : List (Target × Bool)} {s' : σ} :
      Each (w.DropsOf d span) Target.managed s log answers s' → allDone answers = false →
      Rebuilds w d span s log (.ok answers)
  | created {log more : IndexLog τ} {answers : List (Target × Bool)} {s' : σ}
      {outcome : Except Fault (List (Target × Bool))} :
      Each (w.DropsOf d span) Target.managed s log answers s' → allDone answers = true →
      more.drops = [] → w.CreatesAll Target.managed more outcome →
      Rebuilds w d span s (log ++ more) outcome
  | refused {log more : IndexLog τ} {answers : List (Target × Bool)} {s' : σ}
      {outcome : Except Fault (List (Target × Bool))} :
      Each (w.DropsOf d span) Target.managed s log answers s' → allDone answers = true →
      more.drops = [] → w.Refuses d Target.managed s' more outcome →
      Rebuilds w d span s (log ++ more) outcome

theorem exists_rebuilds (hw : w.Spans d span positive) (hd : w.Distinct Target.managed)
    (hs : d.Valid s) : ∃ log outcome s',
      Records (w.recreateAll span) (w.recorded.recreateAll span) s log outcome s' ∧
      w.Rebuilds d span s log outcome := by
  obtain ⟨log, answers, s₁, hr, h⟩ := exists_dropAll hw hs Target.managed
  cases hdone : allDone answers with
  | false =>
    refine ⟨log ++ [], .ok answers, s₁, hr.bind ?_, ?_⟩
    · rw [if_neg (by simp [hdone]), if_neg (by simp [hdone])]
      exact .pure answers s₁
    · rw [List.append_nil]
      exact .stopped h hdone
  | true =>
    obtain ⟨outcome, more, s', hrs, hdrops, hout⟩ :=
      exists_createAll definition_managed hd (h.valid dropsOf_local hs)
    refine ⟨log ++ more, outcome, s', hr.bind ?_, ?_⟩
    · rw [if_pos hdone, if_pos hdone]
      exact hrs
    · rcases hout with hcreates | hrefuses
      · exact .created h hdone hdrops hcreates
      · exact .refused h hdone hdrops hrefuses

/-! ## Outlasting a wait -/

section Exact

variable {w : IndexWork σ Rat} {d : Deployment w.service w.settings.indexName} {span : Rat}
  {place : Namespace} {s s' : σ} {log before after : IndexLog Rat}

/-- The index of a collection is dropped, and the look that ends its waiting window lists it still:
the first one that is no earlier than the deadline. -/
def Outlasts (w : IndexWork σ Rat) (span : Rat) (log : IndexLog Rat) (place : Namespace) : Prop :=
  ∃ start time, ⟨start, .drop place w.settings.indexName⟩ ∈ log ∧
    (time, true) ∈ log.looks place w.settings.indexName ∧
    start + span ≤ time ∧ time < start + span + w.poll

/-- Neither a drop of an index nor a look that lists it. -/
def Quiet (w : IndexWork σ Rat) (log : IndexLog Rat) (place : Namespace) : Prop :=
  (∀ time, ⟨time, .drop place w.settings.indexName⟩ ∉ log) ∧
    ∀ time, (time, true) ∉ log.looks place w.settings.indexName

theorem quiet_of_apart (h : log.Apart place) : w.Quiet log place := by
  refine ⟨fun time ht => h _ ht rfl, fun time ht => ?_⟩
  rw [h.looks] at ht
  cases ht

theorem outlasts_within (hb : w.Quiet before place) (ha : w.Quiet after place) :
    w.Outlasts span (before ++ log ++ after) place ↔ w.Outlasts span log place := by
  simp [Outlasts, IndexLog.looks_append, hb.1, hb.2, ha.1, ha.2]

/-- A wait that is given up lasts to its deadline: there are sleeps enough to reach it. -/
theorem Waits.late {deadline : Rat} {n : Nat} (ht : d.Timed)
    (h : Waits w d place deadline n s log false s')
    (hn : deadline ≤ w.service.now s + n * w.poll) (hs : w.service.now s < deadline + w.poll) :
    ∃ time, (time, true) ∈ log.looks place w.settings.indexName ∧
      deadline ≤ time ∧ time < deadline + w.poll := by
  generalize hb : false = b at h
  -- along the wait: a sleep that is used up takes the clock one sleep closer to the deadline
  induction h with
  | @stop n s s' found h hstop =>
    cases found with
    | none => cases hb
    | some found =>
      refine ⟨w.service.now s, ?_, ?_, hs⟩
      · rw [looked, IndexLog.looks_cons_look]
        exact .head _
      · rcases hstop with hnone | rfl | hlt
        · cases hnone
        · simpa using hn
        · exact not_lt.mp (of_decide_eq_false hlt)
  | @again n s s₁ s₂ s' found entries b h hlt hsleep hrest ih =>
    have hnow : w.service.now s₂ = w.service.now s + w.poll := by
      have slept := (ht.sleep h.valid w.poll _ rfl).2
      rw [hsleep, h.now ht] at slept
      exact slept
    have hlt : w.service.now s < deadline := of_decide_eq_true hlt
    obtain ⟨time, hm, hle, hgt⟩ := ih (by push_cast at hn; linarith) (by linarith) hb
    refine ⟨time, ?_, hle, hgt⟩
    rw [looked, IndexLog.looks_cons_look, IndexLog.looks_cons_sleep]
    exact .tail _ hm

theorem span_le_rounds {poll : Rat} (hp : 0 < poll) :
    span ≤ (Clock.rounds span poll : Nat) * poll := by
  have hceil : span / poll ≤ ((span / poll).ceil.toNat : Nat) :=
    Rat.le_ceil.trans (by exact_mod_cast Int.self_le_toNat _)
  have hr : (Clock.rounds span poll : Nat) = (span / poll).ceil.toNat + 1 := rfl
  rw [hr, ← div_le_iff₀ hp]
  push_cast
  linarith

theorem Drops.false_iff_outlasts {b : Bool} (ht : d.Timed) (hp : 0 < w.poll) (hspan : 0 < span)
    (h : Drops w d span place s log b s') : b = false ↔ w.Outlasts span log place := by
  cases h with
  | absent h =>
    refine iff_of_false nofun ?_
    rintro ⟨start, time, hdrop, -⟩
    simp [looked] at hdrop
  | sent _ _ hn => simp [Clock.isPositive, hspan] at hn
  | awaited h hl _ ha hw =>
    rename_i s₁ s₂ found deadline entries hpos
    have hnow : w.service.now s₂ = w.service.now s₁ := hl.now ht
    have hdeadline : deadline = w.service.now s₁ + span := by
      rw [← hnow]
      exact (Except.ok.inj ha).symm
    constructor
    · rintro rfl
      have henough : span ≤ (Clock.rounds span w.poll : Nat) * w.poll := span_le_rounds hp
      obtain ⟨time, hm, hle, hlt⟩ := hw.late ht (by linarith) (by linarith)
      refine ⟨w.service.now s₁, time, .tail _ (.head _), ?_, hdeadline ▸ hle, hdeadline ▸ hlt⟩
      rw [looked, IndexLog.looks_cons_look, IndexLog.looks_cons_drop]
      exact .tail _ hm
    · rintro ⟨start, time, hdrop, hlook, hle, -⟩
      -- the wait adds no drop, so the one in the record is the one that starts the window
      have hstart : start = w.service.now s₁ := by
        rcases List.mem_cons.mp hdrop with he | hdrop
        · simp [looked] at he
        · rcases List.mem_cons.mp hdrop with he | hdrop
          · exact congrArg IndexEntry.time he
          · rcases hw.onlyLooks _ hdrop with ⟨_, hc⟩ | ⟨_, hc⟩ <;> cases hc
      rw [looked, IndexLog.looks_cons_look, IndexLog.looks_cons_drop] at hlook
      rcases List.mem_cons.mp hlook with he | hlook
      · have htime : time = w.service.now s := congrArg Prod.fst he
        have hfirst : w.service.now s₁ = w.service.now s := h.now ht
        linarith
      · exact hw.listed_late hlook (decide_eq_false (by linarith))

end Exact

/-! ## All or none -/

/-- A rebuild that is completed: all is created, and only after all is dropped and seen gone. -/
structure Rebuilt (w : IndexWork σ τ) (log : IndexLog τ) (answers : List (Target × Bool)) :
    Prop where
  answers_true : ∀ a ∈ answers, a.2 = true
  creates : w.creations Target.managed = .ok log.creates
  creates_last : ∃ before after, log = before ++ after ∧ before.creates = [] ∧ after.drops = [] ∧
    ∀ t ∈ Target.managed, ∃ time,
      (before.looks (t.place w.settings) w.settings.indexName).getLast? = some (time, false)

/-- A rebuild that is given up, with nothing created. -/
structure GivenUp (log : IndexLog τ) (answers : List (Target × Bool)) : Prop where
  answer_false : ∃ a ∈ answers, a.2 = false
  no_creates : log.creates = []

omit [Clock τ] in
theorem not_rebuilt_of_givenUp (h : GivenUp log answers) : ¬ w.Rebuilt log answers := by
  obtain ⟨a, ha, hf⟩ := h.answer_false
  intro hr
  have htrue : a.2 = true := hr.answers_true a ha
  rw [hf] at htrue
  cases htrue

namespace Rebuilds

variable {outcome : Except Fault (List (Target × Bool))}

/-- With a positive span, nothing is listed any more when it is to be created. -/
theorem settles (hd : w.Distinct Target.managed) (hp : Clock.isPositive span = .ok true)
    (h : w.Rebuilds d span s log outcome) :
    ∃ answers, outcome = .ok answers ∧ answers.map (·.1) = Target.managed ∧
      (w.Rebuilt log answers ∨ GivenUp log answers) := by
  cases h with
  | @stopped log answers s' h hdone =>
    obtain ⟨a, ha, hf⟩ := List.all_eq_false.mp hdone
    exact ⟨answers, rfl, h.targets_eq, .inr ⟨⟨a, ha, Bool.eq_false_iff.mpr hf⟩, h.no_creates⟩⟩
  | @created log more answers s' outcome h hdone hdrops hcreates =>
    refine ⟨_, hcreates.outcome_eq, by rw [List.map_map]; exact List.map_id _, .inl ⟨?_, ?_, ?_⟩⟩
    · intro a ha
      obtain ⟨t, -, rfl⟩ := List.mem_map.mp ha
      rfl
    · rw [hcreates.creates, IndexLog.creates_append, h.no_creates, List.nil_append]
    · refine ⟨log, more, rfl, h.no_creates, hdrops, fun t ht => ?_⟩
      exact h.last hd hp (mem_of_allDone hdone h.targets_eq ht)
  | refused h hdone _ hrefuses =>
    obtain ⟨t, ht, hlisted, -⟩ := hrefuses.listed
    exact absurd (h.gone hd hp (mem_of_allDone hdone h.targets_eq ht)) hlisted

/-- Without a positive span no drop is waited for, and what is listed still when it is to be
created is listed by the last look. -/
theorem unawaited (hd : w.Distinct Target.managed) (hp : Clock.isPositive span = .ok false)
    (h : w.Rebuilds d span s log outcome) :
    (outcome = .ok (Target.managed.map fun t => (t, true)) ∧
      w.creations Target.managed = .ok log.creates) ∨
    (outcome = .error (.indexExists w.settings.indexName) ∧ ∃ place time,
      (place, w.settings.indexName) ∈ log.drops ∧
      (log.looks place w.settings.indexName).getLast? = some (time, true)) := by
  cases h with
  | stopped h hdone =>
    rw [h.allDone_of_not_positive hp] at hdone
    cases hdone
  | created h _ _ hcreates =>
    refine .inl ⟨hcreates.outcome_eq, ?_⟩
    rw [hcreates.creates, IndexLog.creates_append, h.no_creates, List.nil_append]
  | refused h hdone _ hrefuses =>
    obtain ⟨t, ht, hlisted, time, hlast⟩ := hrefuses.listed
    refine .inr ⟨hrefuses.outcome_eq, t.place w.settings, time, ?_, ?_⟩
    · rw [IndexLog.drops_append]
      refine List.mem_append_left _ ?_
      exact (h.gone_or_dropped hd (mem_of_allDone hdone h.targets_eq ht)).resolve_left hlisted
    · rw [IndexLog.looks_append, List.getLast?_append, hlast]
      rfl

/-- What is dropped is what is listed first. -/
theorem drops (hd : w.Distinct Target.managed) (hp : Clock.isPositive span = .ok true)
    (h : w.Rebuilds d span s log outcome) : log.drops = w.dropsDue Target.managed log := by
  cases h with
  | stopped h _ => exact h.drops hd
  | created h hdone hmore _ => exact h.drops_append hd hp hdone hmore
  | refused h hdone hmore _ => exact h.drops_append hd hp hdone hmore

end Rebuilds

section Exact

variable {w : IndexWork σ Rat} {d : Deployment w.service w.settings.indexName} {span : Rat}
  {targets : List Target} {s s' : σ} {log : IndexLog Rat} {answers : List (Target × Bool)}

theorem Each.false_iff_outlasts (ht : d.Timed) (hp : 0 < w.poll) (hspan : 0 < span)
    (hd : w.Distinct targets) (h : Each (w.DropsOf d span) targets s log answers s') {t : Target}
    {b : Bool} (hm : (t, b) ∈ answers) :
    b = false ↔ w.Outlasts span log (t.place w.settings) := by
  obtain ⟨s₀, before, entries, after, s₁, rfl, hdrop, hb, ha, -⟩ := h.split dropsOf_local hd hm
  rw [outlasts_within (quiet_of_apart hb) (quiet_of_apart ha)]
  exact hdrop.false_iff_outlasts ht hp hspan

/-- What is created after the drops tells of no index that outlasts its wait. -/
theorem Rebuilds.false_iff_outlasts (ht : d.Timed) (hp : 0 < w.poll) (hspan : 0 < span)
    (hd : w.Distinct Target.managed) (h : w.Rebuilds d span s log (.ok answers)) {t : Target}
    {b : Bool} (hm : (t, b) ∈ answers) :
    b = false ↔ w.Outlasts span log (t.place w.settings) := by
  cases h with
  | stopped h _ => exact h.false_iff_outlasts ht hp hspan hd hm
  | @created log more dropped s' _ h hdone hdrops hcreates =>
    have hall : answers = Target.managed.map fun t => (t, true) := Except.ok.inj hcreates.outcome_eq
    have hquiet : w.Quiet more (t.place w.settings) :=
      ⟨fun time hm => by simpa [hdrops] using IndexLog.mem_drops_iff.mpr ⟨time, hm⟩,
        hcreates.unlisted _⟩
    rw [hall] at hm
    obtain ⟨t, hmanaged, he⟩ := List.mem_map.mp hm
    cases he
    have hnil : w.Quiet [] (t.place w.settings) := ⟨nofun, nofun⟩
    have houtlasts : w.Outlasts span (log ++ more) (t.place w.settings)
        ↔ w.Outlasts span log (t.place w.settings) := outlasts_within hnil hquiet
    rw [houtlasts]
    exact h.false_iff_outlasts ht hp hspan hd (mem_of_allDone hdone h.targets_eq hmanaged)
  | refused _ _ _ hrefuses => cases hrefuses.outcome_eq

/-- A rebuild that waits does not fail: it creates all indexes anew, or it creates none and answers
which ones outlasted their wait. Either way it drops what is listed, and nothing else. -/
theorem recreateAll_rebuilds_or_gives_up (ht : d.Timed)
    (hne : w.settings.movies.fullName ≠ w.settings.listings.fullName) (hp : 0 < w.poll)
    (hspan : 0 < span) (hs : d.Valid s) :
    ∃ log answers s',
      Records (w.recreateAll span) (w.recorded.recreateAll span) s log (.ok answers) s' ∧
      answers.map (·.1) = Target.managed ∧
      log.drops = w.dropsDue Target.managed log ∧
      (∀ t b, (t, b) ∈ answers → (b = false ↔ w.Outlasts span log (t.place w.settings))) ∧
      Xor (w.Rebuilt log answers) (GivenUp log answers) := by
  have hd : w.Distinct Target.managed := distinct_managed hne
  have hpositive : Clock.isPositive span = .ok true := congrArg Except.ok (decide_eq_true hspan)
  have hspans : w.Spans d span true :=
    ⟨fun s hs => (ht.sleep hs w.poll _ rfl).1, hpositive, fun s _ => ⟨_, rfl⟩⟩
  obtain ⟨log, outcome, s', hr, h⟩ := exists_rebuilds hspans hd hs
  obtain ⟨answers, rfl, htargets, hends⟩ := h.settles hd hpositive
  refine ⟨log, answers, s', hr, htargets, h.drops hd hpositive,
    fun t b hm => h.false_iff_outlasts ht hp hspan hd hm, ?_⟩
  rcases hends with hrebuilt | hgiven
  · exact .inl ⟨hrebuilt, fun hgiven => not_rebuilt_of_givenUp hgiven hrebuilt⟩
  · exact .inr ⟨hgiven, not_rebuilt_of_givenUp hgiven⟩

/-- An index that lingers for ever is dropped in vain. -/
theorem recreateAll_gives_up_lingering : ∃ log answers s', Records
      ((Sandbox.sampleWork 2).recreateAll (3 : Rat)) ((Sandbox.sampleWork 2).recorded.recreateAll 3)
      (Sandbox.lingering .forever) log (.ok answers) s' ∧ GivenUp log answers := by
  have hspan : (0 : Rat) < 3 := by norm_num
  have hpoll : (0 : Rat) < 2 := by norm_num
  have hs : (Sandbox.plainDeployment "default").Valid (Sandbox.lingering .forever : Sandbox Rat) :=
    ⟨Sandbox.lingering_sound .forever, trivial⟩
  obtain ⟨log, answers, s', hr, -, -, -, hends⟩ := recreateAll_rebuilds_or_gives_up
    (w := Sandbox.sampleWork 2) (d := Sandbox.plainDeployment "default") Sandbox.deployment_timed
    (Sandbox.sampleWork_distinct 2) hpoll hspan hs
  have hrun : (((Sandbox.sampleWork 2).recreateAll (3 : Rat)).run
      (Sandbox.lingering .forever)).1.map (fun answers => answers.map (·.2))
        = .ok [false, true] := by decide +kernel
  rw [hr.run] at hrun
  have hanswers : answers.map (·.2) = [false, true] := Except.ok.inj hrun
  have hfalse : false ∈ answers.map (·.2) := by simp [hanswers]
  obtain ⟨a, ha, hf⟩ := List.mem_map.mp hfalse
  rcases hends with ⟨hrebuilt, -⟩ | ⟨hgiven, -⟩
  · have htrue : a.2 = true := hrebuilt.answers_true a ha
    rw [hf] at htrue
    cases htrue
  · exact ⟨log, answers, s', hr, hgiven⟩

end Exact

end IndexWork
end DocSearch
