import DocSearch.Proofs.Defaults.Standing

/-! # Callers that resolve side by side

The three steps of a resolution may be taken in turn with those of other callers, so several callers
can have found nothing kept and hold different answers. All of them return the answer that was kept
first. A step of one caller changes nothing for the callers of another kind. -/

namespace DocSearch

namespace Resolving

/-- The answer that a caller is about to keep. -/
def held? : Resolving → Option (Option Projection)
  | .holding spec => some spec
  | _ => none

def isAsking : Resolving → Bool
  | .asking => true
  | _ => false

end Resolving

namespace Defaults

variable {r t : Defaults} {key k : ResultKey}

/-! ## One step -/

theorem advance_waiting_of_kept {spec : Option Projection} (h : r.kept? key = some spec) :
    r.advance key .waiting = (.returned spec, r) := by
  rw [advance, h]

theorem advance_waiting_of_none (h : r.kept? key = none) :
    r.advance key .waiting = (.asking, r) := by
  rw [advance, h]

theorem kept?_keep (spec : Option Projection) : (r.keep key spec).2.kept? k
    = (r.kept? k).or (if key = k then some spec else none) := by
  unfold keep
  cases hk : r.kept? key with
  | some earlier =>
    by_cases he : key = k
    · subst he
      rw [hk]
      rfl
    · rw [if_neg he, Option.or_none]
  | none => exact lookup_append_single r.resolved spec

theorem keep_fst (spec : Option Projection) :
    (r.keep key spec).2.kept? key = some (r.keep key spec).1 := by
  rw [kept?_keep, if_pos rfl, keep]
  cases r.kept? key <;> rfl

/-- Only an answer that is held comes to be kept, and none in the place of another. -/
theorem kept?_advance (p : Resolving) : (r.advance key p).2.kept? k
    = (r.kept? k).or (if key = k then p.held? else none) := by
  have nothing : r.kept? k = (r.kept? k).or (if key = k then none else none) := by
    rw [ite_self, Option.or_none]
  cases p with
  | waiting =>
    cases hk : r.kept? key with
    | some spec => rw [advance_waiting_of_kept hk]; exact nothing
    | none => rw [advance_waiting_of_none hk]; exact nothing
  | asking =>
    have asked : (r.advance key .asking).2.kept? k = r.kept? k := kept?_ask
    rw [asked]
    exact nothing
  | holding spec => exact kept?_keep spec
  | returned spec => exact nothing
  | failed fault => exact nothing

theorem kept?_advance_of_kept {spec : Option Projection} (h : r.kept? k = some spec)
    (p : Resolving) : (r.advance key p).2.kept? k = some spec := by
  rw [kept?_advance, h]
  rfl

/-- Only a caller that asks calls the default of its kind. -/
theorem registration?_advance (p : Resolving) : (r.advance key p).2.registration? k
    = if key = k ∧ p.isAsking then (r.registration? k).map Registration.called
      else r.registration? k := by
  cases p with
  | waiting =>
    cases hk : r.kept? key with
    | some spec => rw [advance_waiting_of_kept hk, if_neg nofun]
    | none => rw [advance_waiting_of_none hk, if_neg nofun]
  | asking =>
    have asked : (r.advance key .asking).2.registration? k
        = if key = k then (r.registration? k).map Registration.called else r.registration? k :=
      registration?_ask
    rw [asked]
    simp only [Resolving.isAsking, and_true]
  | holding spec =>
    rw [if_neg nofun]
    show (r.keep key spec).2.registration? k = _
    unfold keep
    cases r.kept? key <;> rfl
  | returned spec => rw [if_neg nofun]; rfl
  | failed fault => rw [if_neg nofun]; rfl

/-- A caller returns what is kept when it does. -/
theorem kept?_of_returned {p : Resolving} {spec : Option Projection}
    (h : (r.advance key p).1 = .returned spec) :
    p = .returned spec ∨ (r.advance key p).2.kept? key = some spec := by
  cases p with
  | waiting =>
    cases hk : r.kept? key with
    | some earlier =>
      rw [advance_waiting_of_kept hk] at h ⊢
      cases h
      exact .inr hk
    | none =>
      rw [advance_waiting_of_none hk] at h
      cases h
  | asking =>
    have answered : Resolving.answered (r.ask key).1 = .returned spec := h
    cases ha : (r.ask key).1 <;> rw [ha] at answered <;> cases answered
  | holding held =>
    have kept : (r.keep key held).1 = spec := Resolving.returned.inj h
    exact .inr (kept ▸ keep_fst held)
  | returned earlier => exact .inl h
  | failed fault => cases h

theorem ask_congr (h : r.registration? key = t.registration? key) :
    (r.ask key).1 = (t.ask key).1 := by
  unfold ask
  rw [h]
  rcases t.registration? key with _ | ⟨_ | _, _⟩ <;> rfl

theorem keep_congr {spec : Option Projection} (h : r.kept? key = t.kept? key) :
    (r.keep key spec).1 = (t.keep key spec).1 := by
  unfold keep
  rw [h]
  cases t.kept? key <;> rfl

/-- A step depends on where the caller's kind stands only. -/
theorem advance_congr (h : r.standing key = t.standing key) (p : Resolving) :
    (r.advance key p).1 = (t.advance key p).1 ∧
      (r.advance key p).2.standing key = (t.advance key p).2.standing key := by
  have hr : r.registration? key = t.registration? key := congrArg Standing.registration h
  have hk : r.kept? key = t.kept? key := congrArg Standing.kept h
  constructor
  · cases p with
    | waiting =>
      unfold advance
      rw [hk]
      cases t.kept? key <;> rfl
    | asking => exact congrArg Resolving.answered (ask_congr hr)
    | holding spec => exact congrArg Resolving.returned (keep_congr hk)
    | returned spec => rfl
    | failed fault => rfl
  · rw [standing, standing, registration?_advance, registration?_advance, kept?_advance,
      kept?_advance, hr, hk]

/-- A step leaves every other kind where it stands. -/
theorem standing_advance_of_ne (h : key ≠ k) (p : Resolving) :
    (r.advance key p).2.standing k = r.standing k := by
  rw [standing, registration?_advance, kept?_advance, if_neg fun hk => h hk.1, if_neg h,
    Option.or_none]
  rfl

end Defaults

/-! ## Schedules -/

/-- The defaults, and how far each caller is that uses them. A caller is one resolution. -/
structure Race (ι : Type) where
  defaults : Defaults
  caller : ι → Resolving

namespace Race

variable {ι : Type} [DecidableEq ι] (key : ι → ResultKey)

/-- No caller has begun. -/
def start (r : Defaults) : Race ι := ⟨r, fun _ => .waiting⟩

/-- The next step of a caller, each of which resolves the kind of its `key`. -/
def step (s : Race ι) (i : ι) : Race ι where
  defaults := (s.defaults.advance (key i) (s.caller i)).2
  caller j := if j = i then (s.defaults.advance (key i) (s.caller i)).1 else s.caller j

/-- Steps in the order of a schedule, which may be any. -/
def run (s : Race ι) (schedule : List ι) : Race ι := schedule.foldl (step key) s

/-- The answers that callers come to keep along a schedule, each with the kind it is for. -/
def offers (s : Race ι) : List ι → List (ResultKey × Option Projection)
  | [] => []
  | i :: rest => ((s.caller i).held?.map (key i, ·)).toList ++ offers (s.step key i) rest

/-- The callers that call the default of their kind along a schedule. -/
def asks (s : Race ι) : List ι → List ι
  | [] => []
  | i :: rest =>
    if (s.caller i).isAsking then i :: asks (s.step key i) rest else asks (s.step key i) rest

variable {key}

theorem run_append (s : Race ι) (before later : List ι) :
    s.run key (before ++ later) = (s.run key before).run key later := List.foldl_append

theorem step_caller_self (s : Race ι) (i : ι) :
    (s.step key i).caller i = (s.defaults.advance (key i) (s.caller i)).1 := if_pos rfl

theorem step_caller_of_ne (s : Race ι) {i j : ι} (h : j ≠ i) :
    (s.step key i).caller j = s.caller j := if_neg h

/-- Three steps that no other caller comes between are a resolution. -/
theorem run_alone (s : Race ι) {i : ι} (h : s.caller i = .waiting) :
    (s.run key [i, i, i]).defaults = (s.defaults.resolve (key i)).2 ∧
      (s.run key [i, i, i]).caller i = .ended (s.defaults.resolve (key i)).1 := by
  have defaults (s : Race ι) :
      (s.step key i).defaults = (s.defaults.advance (key i) (s.caller i)).2 := rfl
  show (((s.step key i).step key i).step key i).defaults = _ ∧
    (((s.step key i).step key i).step key i).caller i = _
  simp only [step_caller_self, defaults, h]
  -- With an answer kept, the second and the third step do nothing.
  cases hk : s.defaults.kept? (key i) with
  | some spec =>
    rw [Defaults.advance_waiting_of_kept hk, Defaults.resolve_of_kept hk]
    exact ⟨rfl, rfl⟩
  | none =>
    rw [Defaults.advance_waiting_of_none hk, Defaults.resolve, hk]
    simp only [Defaults.advance]
    rcases s.defaults.ask (key i) with ⟨answer, r⟩
    cases answer with
    | error fault => exact ⟨rfl, rfl⟩
    | ok spec => exact ⟨rfl, rfl⟩

/-! ## What is kept -/

omit [DecidableEq ι] in
theorem lookup_offer {i : ι} {kind : ResultKey} (p : Resolving) :
    (p.held?.map (key i, ·)).toList.lookup kind = if key i = kind then p.held? else none := by
  cases p.held? with
  | none => rw [ite_self]; rfl
  | some spec => exact Defaults.lookup_append_single [] spec

/-- The first answer that a caller comes to keep stays, unless one was kept before. -/
theorem kept?_run (s : Race ι) (schedule : List ι) (kind : ResultKey) :
    (s.run key schedule).defaults.kept? kind
      = (s.defaults.kept? kind).or ((s.offers key schedule).lookup kind) := by
  induction schedule generalizing s with
  | nil => exact Option.or_none.symm
  | cons i rest ih =>
    have stepped : (s.step key i).defaults.kept? kind
        = (s.defaults.kept? kind).or (if key i = kind then (s.caller i).held? else none) :=
      Defaults.kept?_advance _
    show ((s.step key i).run key rest).defaults.kept? kind = _
    rw [ih, stepped, offers, List.lookup_append, lookup_offer, Option.or_assoc]

/-- What callers have returned is what is kept for their kind. -/
def Settled (key : ι → ResultKey) (s : Race ι) : Prop :=
  ∀ i spec, s.caller i = .returned spec → s.defaults.kept? (key i) = some spec

omit [DecidableEq ι] in
theorem settled_start (r : Defaults) : Settled key (start r) := nofun

theorem Settled.step {s : Race ι} (h : Settled key s) (i : ι) : Settled key (s.step key i) := by
  intro j spec hj
  by_cases hi : j = i
  · subst hi
    rw [step_caller_self] at hj
    -- It had returned before, and what it returned stays, or it returns what is kept now.
    rcases Defaults.kept?_of_returned hj with before | kept
    · exact Defaults.kept?_advance_of_kept (h j spec before) _
    · exact kept
  · rw [step_caller_of_ne s hi] at hj
    exact Defaults.kept?_advance_of_kept (h j spec hj) _

theorem Settled.run {s : Race ι} (h : Settled key s) (schedule : List ι) :
    Settled key (s.run key schedule) := by
  induction schedule generalizing s with
  | nil => exact h
  | cons i rest ih => exact ih (h.step i)

/-! ## Calls of the defaults -/

theorem registration?_run (s : Race ι) (schedule : List ι) {kind : ResultKey}
    {call : Nat → Except Fault Argument} {n : Nat}
    (h : s.defaults.registration? kind = some ⟨.factory call, n⟩) :
    (s.run key schedule).defaults.registration? kind
      = some ⟨.factory call, n + (s.asks key schedule).countP fun i => key i = kind⟩ := by
  induction schedule generalizing s n with
  | nil => exact h
  | cons i rest ih =>
    have stepped : (s.step key i).defaults.registration? kind
        = if key i = kind ∧ (s.caller i).isAsking
          then (s.defaults.registration? kind).map Registration.called
          else s.defaults.registration? kind := Defaults.registration?_advance _
    show ((s.step key i).run key rest).defaults.registration? kind = _
    rw [asks]
    by_cases asking : (s.caller i).isAsking = true
    · by_cases hi : key i = kind
      · rw [if_pos ⟨hi, asking⟩, h] at stepped
        rw [if_pos asking, List.countP_cons_of_pos (by simpa using hi), ih (s.step key i) stepped,
          Nat.add_right_comm, Nat.add_assoc]
      · rw [if_neg fun hs => hi hs.1, h] at stepped
        rw [if_pos asking, List.countP_cons_of_neg (by simpa using hi), ih (s.step key i) stepped]
    · rw [if_neg fun hs => asking hs.2, h] at stepped
      rw [if_neg asking, ih (s.step key i) stepped]

/-- A caller that begins when an answer is kept returns it and calls nothing. -/
theorem not_mem_asks {s : Race ι} {i : ι} {spec : Option Projection}
    (kept : s.defaults.kept? (key i) = some spec)
    (h : s.caller i = .waiting ∨ s.caller i = .returned spec) (later : List ι) :
    i ∉ s.asks key later ∧ ((s.run key later).caller i = .waiting ∨
      (s.run key later).caller i = .returned spec) := by
  induction later generalizing s with
  | nil => exact ⟨List.not_mem_nil, h⟩
  | cons j rest ih =>
    have kept' : (s.step key j).defaults.kept? (key i) = some spec :=
      Defaults.kept?_advance_of_kept kept _
    have h' : (s.step key j).caller i = .waiting ∨ (s.step key j).caller i = .returned spec := by
      by_cases hj : i = j
      · subst hj
        rw [step_caller_self]
        rcases h with h | h <;> rw [h]
        · rw [Defaults.advance_waiting_of_kept kept]
          exact .inr rfl
        · exact .inr rfl
      · rw [step_caller_of_ne s hj]
        exact h
    obtain ⟨unasked, ended⟩ := ih kept' h'
    refine ⟨?_, ended⟩
    rw [asks]
    split
    · next asking =>
      have hj : i ≠ j := by
        rintro rfl
        rcases h with h | h <;> rw [h] at asking <;> cases asking
      exact List.not_mem_cons_of_ne_of_not_mem hj unasked
    · exact unasked

/-! ## Kinds apart -/

/-- A kind stands the same in two races, and its callers are equally far. -/
structure Agree (key : ι → ResultKey) (kind : ResultKey) (s t : Race ι) : Prop where
  standing : s.defaults.standing kind = t.defaults.standing kind
  caller : ∀ i, key i = kind → s.caller i = t.caller i

namespace Agree

variable {kind : ResultKey} {s t : Race ι} {i : ι}

omit [DecidableEq ι] in
theorem symm (h : Agree key kind s t) : Agree key kind t s :=
  ⟨h.standing.symm, fun i hi => (h.caller i hi).symm⟩

theorem step (h : Agree key kind s t) (hi : key i = kind) :
    Agree key kind (s.step key i) (t.step key i) := by
  subst hi
  have same := Defaults.advance_congr h.standing (s.caller i)
  rw [h.caller i rfl] at same
  refine ⟨?_, fun j hj => ?_⟩
  · show (s.defaults.advance (key i) (s.caller i)).2.standing (key i) = _
    rw [h.caller i rfl]
    exact same.2
  · by_cases hji : j = i
    · subst hji
      rw [step_caller_self, step_caller_self, h.caller j rfl]
      exact same.1
    · rw [step_caller_of_ne s hji, step_caller_of_ne t hji]
      exact h.caller j hj

theorem step_left (h : Agree key kind s t) (hi : key i ≠ kind) :
    Agree key kind (s.step key i) t := by
  refine ⟨(Defaults.standing_advance_of_ne hi _).trans h.standing, fun j hj => ?_⟩
  have hji : j ≠ i := by
    rintro rfl
    exact hi hj
  rw [step_caller_of_ne s hji]
  exact h.caller j hj

/-- Callers of other kinds may as well not take their steps. -/
theorem run_filter {keep : ι → Bool} (hkeep : ∀ i, key i = kind → keep i = true)
    (h : Agree key kind s t) (schedule : List ι) :
    Agree key kind (s.run key schedule) (t.run key (schedule.filter keep)) := by
  induction schedule generalizing s t with
  | nil => exact h
  | cons i rest ih =>
    by_cases hk : keep i = true
    · rw [List.filter_cons_of_pos hk]
      by_cases hi : key i = kind
      · exact ih (h.step hi)
      · exact ih (h.step_left hi |>.symm.step_left hi |>.symm)
    · rw [List.filter_cons_of_neg hk]
      exact ih (h.step_left fun hi => hk (hkeep i hi))

end Agree

/-- What comes of callers side by side for one kind, from any defaults and along any schedule. -/
structure Settles (r : Defaults) (key : ι → ResultKey) (kind : ResultKey) (schedule : List ι) :
    Prop where
  /-- What is kept in the end was kept before, or else is the answer that was the first to be. -/
  first : ((start r).run key schedule).defaults.kept? kind
    = (r.kept? kind).or (((start r).offers key schedule).lookup kind)
  /-- Every caller that returns has that answer. -/
  one : ∀ i spec, key i = kind → ((start r).run key schedule).caller i = .returned spec →
    ((start r).run key schedule).defaults.kept? kind = some spec
  /-- No step changes it. -/
  stays : ∀ spec later, ((start r).run key schedule).defaults.kept? kind = some spec →
    ((start r).run key (schedule ++ later)).defaults.kept? kind = some spec
  /-- A factory is called by the callers that ask, and by no others. -/
  calls : ∀ call n, r.registration? kind = some ⟨.factory call, n⟩ →
    ((start r).run key schedule).defaults.registration? kind
      = some ⟨.factory call, n + ((start r).asks key schedule).countP fun i => key i = kind⟩
  /-- No caller asks that has not begun when an answer is kept. -/
  unasked : ∀ i later, key i = kind → (((start r).run key schedule).defaults.kept? kind).isSome →
    ((start r).run key schedule).caller i = .waiting →
    i ∉ ((start r).run key schedule).asks key later
  /-- Other kinds and their callers are as without the callers of this one. -/
  apart : ∀ other, other ≠ kind → Agree key other ((start r).run key schedule)
    ((start r).run key (schedule.filter fun i => key i ≠ kind))
  /-- A caller whose steps come one right after the other resolves as if there were no others. -/
  alone : ∀ i, ((start r).run key schedule).caller i = .waiting →
    ((start r).run key (schedule ++ [i, i, i])).defaults
        = (((start r).run key schedule).defaults.resolve (key i)).2 ∧
      ((start r).run key (schedule ++ [i, i, i])).caller i
        = .ended (((start r).run key schedule).defaults.resolve (key i)).1

/-- However the steps of callers come in turn, those of one kind that return have the same answer,
which is the first that was kept. -/
theorem run_settles (r : Defaults) (key : ι → ResultKey) (kind : ResultKey) (schedule : List ι) :
    Settles r key kind schedule where
  first := kept?_run (start r) schedule kind
  one := by
    rintro i spec rfl returned
    exact (settled_start r).run schedule i spec returned
  stays := by
    intro spec later kept
    rw [run_append, kept?_run, kept]
    rfl
  calls := fun _ _ registered => registration?_run (start r) schedule registered
  unasked := by
    rintro i later rfl kept waiting
    obtain ⟨spec, hspec⟩ := Option.isSome_iff_exists.mp kept
    exact (not_mem_asks hspec (.inl waiting) later).1
  apart := by
    intro other ne
    refine Agree.run_filter ?_ ⟨rfl, fun _ _ => rfl⟩ schedule
    rintro i rfl
    exact decide_eq_true ne
  alone := by
    intro i waiting
    rw [run_append]
    exact run_alone _ waiting

/-- A factory that gives a projection at first and none later. -/
def fickle : DefaultSource :=
  .factory fun calls => if calls = 0 then .ok (.made (.projection {})) else .ok .null

/-- Both callers of a film's default call it; the second is the first to have its answer kept. -/
example :
    let film : ResultKey := ⟨"film", "Film"⟩
    let r : Defaults := { registrations := [(film, ⟨fickle, 0⟩)] }
    let s : Race Bool := (start r).run (fun _ => film) [true, false, true, false, false, true]
    (s.caller true, s.caller false) = (.returned none, .returned none) := by
  rfl

end Race
end DocSearch
