import DocSearch.Index.Command
import DocSearch.Proofs.Index.Rebuild

/-! # How a confirmed rebuild ends

With a positive wait the command line ends as a rebuild does: all is created, or the wait is called
too short. Without one nothing is waited for, so an index that is still listed after its drop is met
again when it should be created, and the command ends with a fault. -/

namespace DocSearch

namespace IndexServer

variable {σ : Type}

/-- What is said when a deletion is not completed in time. -/
def tooShortLine (wait : Datum) : String :=
  "\n❌ " ++ waitText wait
    ++ "초 안에 삭제가 끝나지 않았습니다. 잠시 후 create를 실행하세요."

theorem run_sayAll (lines console : List String) (s : σ) :
    (sayAll lines).run (console, s) = (.ok (), console ++ lines, s) := by
  induction lines generalizing console with
  | nil => rw [List.append_nil]; rfl
  | cons line rest ih =>
    have hfirst : (say line).run (console, s) = (.ok (), console ++ [line], s) := rfl
    rw [sayAll, Action.run_bind_of_ok hfirst, ih, List.append_assoc]
    rfl

/-- The lines of a rebuild after its first one. -/
def answerLines (wait : Datum) (answers : List (Target × Bool)) : List String :=
  answers.map answerLine ++ if IndexWork.allDone answers then [] else [tooShortLine wait]

theorem run_recreate (work : IndexWork σ Datum) (wait : Datum) (console : List String) (s : σ) :
    (perform work (.recreate true wait)).run (console, s) =
      match (work.recreateAll wait).run s with
      | (.ok answers, s') => (.ok (exitOf answers),
          console ++ "\n♻️  Recreating search indexes..." :: answerLines wait answers, s')
      | (.error fault, s') =>
        (.error fault, console ++ ["\n♻️  Recreating search indexes..."], s') := by
  show (recreateConfirmed work wait).run (console, s) = _
  unfold recreateConfirmed
  have hsaid : (say "\n♻️  Recreating search indexes...").run (console, s)
      = (.ok (), console ++ ["\n♻️  Recreating search indexes..."], s) := rfl
  rw [Action.run_bind_of_ok hsaid, Action.run_bind, Action.run_onSecond]
  rcases (work.recreateAll wait).run s with ⟨outcome, s'⟩
  cases outcome with
  | error fault => rfl
  | ok answers =>
    dsimp only
    rw [Action.run_bind_of_ok (run_sayAll _ _ s'), answerLines, exitOf]
    split
    · simp
    · have hlate : ∀ shown, (say (tooShortLine wait)).run (shown, s')
          = (.ok (), shown ++ [tooShortLine wait], s') := fun _ => rfl
      have hlast := Action.run_bind_of_ok (hlate (console ++
        ["\n♻️  Recreating search indexes..."] ++ answers.map answerLine))
        fun _ => (Pure.pure .failure : Session σ Exit)
      refine hlast.trans ?_
      simp

end IndexServer

namespace IndexWork

variable {σ : Type} {w : IndexWork σ Datum} {d : Deployment w.service w.settings.indexName}
  {wait : Datum} {s : σ} {log : IndexLog Datum} {outcome : Except Fault (List (Target × Bool))}
  {n : Number} {q : Rat}

/-! ## Waits that are numbers -/

theorem addSpan_float {x : Double} (hwait : wait.toNumber? = some n) (hfits : n.fitsDouble = true) :
    Clock.add (.float x) wait = .ok (.float (x.add n.toDouble)) := by
  show Datum.addSpan _ _ = _
  have hx : (Datum.float x).toNumber? = some (.real x) := rfl
  rw [Datum.addSpan, hx, hwait]
  dsimp only
  rw [if_pos hfits]
  cases n <;> rfl

theorem isPositive_number (hwait : wait.toNumber? = some n) (hn : n.magnitude = .rational q) :
    Clock.isPositive wait = .ok (decide (0 < q)) := by
  show Datum.isPositiveSpan wait = _
  have hzero : (Number.whole 0).magnitude = .rational 0 := rfl
  rw [Datum.isPositiveSpan, hwait]
  dsimp only
  rw [Number.lt, hzero, hn]
  rfl

/-- The clock of a deployment reads a binary64 number, and two seconds are slept between looks. -/
structure Standard (w : IndexWork σ Datum) (d : Deployment w.service w.settings.indexName) :
    Prop where
  timed : d.Timed
  reads : ∀ s, d.Valid s → ∃ x, w.service.now s = .float x
  poll : w.poll = standardPoll

theorem Standard.spans (h : w.Standard d) (hwait : wait.toNumber? = some n)
    (hn : n.magnitude = .rational q) (hfits : n.fitsDouble = true) :
    w.Spans d wait (decide (0 < q)) where
  sleeps := by
    intro s hs
    obtain ⟨x, hx⟩ := h.reads s hs
    refine (h.timed.sleep hs w.poll (.float (x.add (Double.ofInt 2))) ?_).1
    rw [hx, h.poll]
    exact addSpan_float (n := .real (Double.ofInt 2)) rfl rfl
  isPositive := isPositive_number hwait hn
  add := by
    intro s hs
    obtain ⟨x, hx⟩ := h.reads s hs
    exact ⟨_, by rw [hx]; exact addSpan_float hwait hfits⟩

/-! ## The ends -/

/-- All is created. -/
def EndsRebuilt (w : IndexWork σ Datum) (log : IndexLog Datum) (exit : Except Fault Exit) : Prop :=
  exit = .ok .success ∧ w.creations Target.managed = .ok log.creates

/-- Nothing is created, which the last line tells. -/
def EndsLate (wait : Datum) (log : IndexLog Datum) (exit : Except Fault Exit)
    (console : List String) : Prop :=
  exit = .ok .failure ∧ console.getLast? = some (IndexServer.tooShortLine wait) ∧ log.creates = []

/-- An index is dropped, and is listed still when it should be created. -/
def EndsRefused (w : IndexWork σ Datum) (log : IndexLog Datum) (exit : Except Fault Exit) : Prop :=
  exit = .error (.indexExists w.settings.indexName) ∧ ∃ place time,
    (place, w.settings.indexName) ∈ log.drops ∧
    (log.looks place w.settings.indexName).getLast? = some (time, true)

/-- How a confirmed rebuild ends, with a wait of `q` seconds. -/
theorem recreate_ends (h : w.Standard d)
    (hne : w.settings.movies.fullName ≠ w.settings.listings.fullName) (hs : d.Valid s)
    (hwait : wait.toNumber? = some n) (hn : n.magnitude = .rational q)
    (hfits : n.fitsDouble = true) (console : List String) :
    ∃ log exit shown s',
      (IndexServer.perform w (.recreate true wait)).run (console, s) = (exit, shown, s') ∧
      (IndexServer.perform w.recorded (.recreate true wait)).run (console, [], s)
        = (exit, shown, log, s') ∧
      (0 < q → w.EndsRebuilt log exit ∨ EndsLate wait log exit shown) ∧
      (q ≤ 0 → w.EndsRebuilt log exit ∨ w.EndsRefused log exit) := by
  have hd : w.Distinct Target.managed := distinct_managed hne
  obtain ⟨log, outcome, s', hr, hcourse⟩ := exists_rebuilds (h.spans hwait hn hfits) hd hs
  have hplain := IndexServer.run_recreate w wait console s
  have hrecorded := IndexServer.run_recreate w.recorded wait console ([], s)
  rw [hr.run] at hplain
  rw [hr.recorded [], List.nil_append] at hrecorded
  have hpositive : Clock.isPositive wait = .ok (decide (0 < q)) := isPositive_number hwait hn
  have hall : allDone (Target.managed.map fun t => (t, true)) = true := rfl
  by_cases hq : 0 < q
  · rw [decide_eq_true hq] at hpositive
    obtain ⟨answers, rfl, -, hends⟩ := hcourse.settles hd hpositive
    refine ⟨log, _, _, s', hplain, hrecorded, fun _ => ?_, fun hle => absurd hq (not_lt.mpr hle)⟩
    rcases hends with hrebuilt | hgiven
    · have hdone : allDone answers = true := List.all_eq_true.mpr hrebuilt.answers_true
      refine .inl ⟨?_, hrebuilt.creates⟩
      rw [IndexServer.exitOf, if_pos hdone]
    · obtain ⟨a, ha, hf⟩ := hgiven.answer_false
      have hdone : allDone answers = false :=
        List.all_eq_false.mpr ⟨a, ha, Bool.eq_false_iff.mp hf⟩
      refine .inr ⟨?_, ?_, hgiven.no_creates⟩
      · rw [IndexServer.exitOf, if_neg (by simp [hdone])]
      · rw [IndexServer.answerLines, if_neg (by simp [hdone])]
        simp [List.getLast?_cons]
  · rw [decide_eq_false hq] at hpositive
    rcases hcourse.unawaited hd hpositive with ⟨rfl, hcreates⟩ | ⟨rfl, hlisted⟩
    · refine ⟨log, _, _, s', hplain, hrecorded, fun hlt => absurd hlt hq, fun _ => .inl ?_⟩
      refine ⟨?_, hcreates⟩
      rw [IndexServer.exitOf, if_pos hall]
    · refine ⟨log, _, _, s', hplain, hrecorded, fun hlt => absurd hlt hq, fun _ => .inr ?_⟩
      exact ⟨rfl, hlisted⟩

theorem reads_float (reading span later : Datum) (h : ∃ x, reading = .float x)
    (ha : Clock.add reading span = .ok later) : ∃ x, later = .float x := by
  obtain ⟨x, rfl⟩ := h
  cases hn : span.toNumber? with
  | none =>
    have hnone : Clock.add (Datum.float x) span = .error (.notAddable span.kindName) := by
      show Datum.addSpan _ _ = _
      rw [Datum.addSpan, hn]
      rfl
    rw [hnone] at ha
    cases ha
  | some n =>
    cases hfits : n.fitsDouble with
    | true =>
      rw [addSpan_float hn hfits] at ha
      cases ha
      exact ⟨_, rfl⟩
    | false =>
      have hbeyond : Clock.add (Datum.float x) span = .error .beyondDouble := by
        have hx : (Datum.float x).toNumber? = some (.real x) := rfl
        show Datum.addSpan _ _ = _
        rw [Datum.addSpan, hx, hn]
        exact if_neg (by simp [hfits])
      rw [hbeyond] at ha
      cases ha

/-- The sandbox as a deployment whose clock reads binary64 numbers. -/
def sampleDeployment :
    Deployment (Sandbox.service : IndexService (Sandbox Datum) Datum) "default" :=
  Sandbox.deployment "default" (fun reading => ∃ x, reading = .float x) reads_float

theorem sampleWork_standard : (Sandbox.sampleWork standardPoll).Standard sampleDeployment where
  timed := Sandbox.deployment_timed
  reads _ hs := hs.2
  poll := rfl

theorem recreate_ends_in_sample : ∃ log exit shown s',
    (IndexServer.perform (Sandbox.sampleWork standardPoll).recorded
      (.recreate true standardRebuildWait)).run ([], [], Sandbox.lingering .forever)
        = (exit, shown, log, s') ∧
    ((Sandbox.sampleWork standardPoll).EndsRebuilt log exit ∨
      EndsLate standardRebuildWait log exit shown) := by
  have hs : sampleDeployment.Valid (Sandbox.lingering .forever) :=
    ⟨Sandbox.lingering_sound _, Double.ofInt 0, rfl⟩
  have hwait : standardRebuildWait.toNumber? = some (.whole 120) := rfl
  have hfits : (Number.whole 120).fitsDouble = true := by decide +kernel
  obtain ⟨log, exit, shown, s', -, hr, hends, -⟩ := recreate_ends sampleWork_standard
    (Sandbox.sampleWork_distinct _) hs hwait rfl hfits []
  exact ⟨log, exit, shown, s', hr, hends (by norm_num)⟩

/-- A confirmed rebuild that does not wait drops an index and ends with a fault. -/
theorem recreate_without_wait_faults :
    IndexCommand.ofWords ["recreate", "--confirm", "--wait", "0"]
      = .ok (some (.recreate true (.float (Double.ofInt 0)))) ∧
    let ended := (IndexServer.perform (Sandbox.sampleWork standardPoll).recorded
      (.recreate true (.float (Double.ofInt 0)))).run ([], [], Sandbox.lingering (.listings 1))
    ended.1 = .error (.indexExists "default") ∧
      ended.2.2.1.drops = [(⟨"sample_mflix", "movies"⟩, "default")] := by
  refine ⟨rfl, ?_⟩
  decide +kernel

end IndexWork
end DocSearch
