import DocSearch.Proofs.Outcome
import DocSearch.Search.Defaults

/-! # Where one kind stands

What the defaults have for one kind of result is its registration and the answer kept for it. A call
does one of four things to a kind: it registers a default, resolves it, fails to resolve it, or leaves
it alone. Which one it is, and what becomes of the kind, depends on where it stood only. -/

namespace DocSearch

/-- What the defaults have for one kind. -/
structure Standing where
  registration : Option Registration := none
  kept : Option (Option Projection) := none

/-- What a call does to one kind. -/
inductive Deed where
  | registers (source : DefaultSource)
  | resolves (spec : Option Projection)
  | fails (fault : Fault)
  /-- A registration that is refused, a look, or a call that is about something else. -/
  | nothing

namespace Registration

/-- The registration after its default is called; only factories count their calls. -/
def called (registration : Registration) : Registration :=
  match registration.source with
  | .fixed _ => registration
  | .factory _ => { registration with calls := registration.calls + 1 }

theorem source_called (registration : Registration) :
    registration.called.source = registration.source := by
  unfold called
  split
  · rfl
  · rfl

/-- What the next call of the default answers. -/
def answer (key : ResultKey) (registration : Registration) : Except Fault (Option Projection) :=
  match registration.source with
  | .fixed a => Defaults.specOf key a
  | .factory call => call registration.calls >>= Defaults.specOf key

end Registration

namespace Standing

/-- The answer to a resolution: the one that is kept, else that of the default, which is to have no
projection if none is registered. -/
def answer (key : ResultKey) (e : Standing) : Except Fault (Option Projection) :=
  match e.kept with
  | some spec => .ok spec
  | none =>
    match e.registration with
    | none => .ok none
    | some registration => registration.answer key

/-- Where a kind stands after a deed. The default is called unless there is an answer already. -/
def after (e : Standing) : Deed → Standing
  | .registers source => { e with registration := some ⟨source, 0⟩ }
  | .resolves spec =>
    if e.kept.isSome then e else ⟨e.registration.map Registration.called, some spec⟩
  | .fails _ => { e with registration := e.registration.map Registration.called }
  | .nothing => e

end Standing

namespace Defaults

def standing (r : Defaults) (key : ResultKey) : Standing := ⟨r.registration? key, r.kept? key⟩

/-- What a registration of a kind does to it. -/
def registering (r : Defaults) (key : ResultKey) (source : DefaultSource) : Deed :=
  match r.register key source with
  | .ok _ => .registers source
  | .error _ => .nothing

/-- What a resolution of a kind does to it. -/
def resolving (r : Defaults) (key : ResultKey) : Deed :=
  match (r.resolve key).1 with
  | .ok spec => .resolves spec
  | .error fault => .fails fault

/-- What a call does to a kind. A search for which a projection is given asks for no default. -/
def deed (r : Defaults) (key : ResultKey) : Call → Deed
  | .register k source | .declare k source =>
    if k = key then r.registering key source else .nothing
  | .isRegistered _ => .nothing
  | .resolve k => if k = key then r.resolving key else .nothing
  | .projectionFor k projection =>
    if k = key ∧ projection.ifGiven.isNone then r.resolving key else .nothing

variable {r : Defaults} {key k : ResultKey}

/-! ## Registering -/

theorem register_ok_iff {source : DefaultSource} :
    (∃ r', r.register key source = .ok r') ↔ r.standing key = {} := by
  unfold register isRegistered standing
  cases hr : r.registration? key with
  | some registration => simp
  | none =>
    cases hk : r.kept? key with
    | some spec => simp
    | none => simp

theorem lookup_append_single {α : Type} (l : List (ResultKey × α)) (x : α) :
    (l ++ [(k, x)]).lookup key = (l.lookup key).or (if k = key then some x else none) := by
  rw [List.lookup_append, List.lookup_cons]
  by_cases h : k = key
  · simp [h]
  · have hb : (key == k) = false := beq_eq_false_iff_ne.mpr (Ne.symm h)
    simp [h, hb]

theorem standing_register {r' : Defaults} {source : DefaultSource}
    (h : r.register k source = .ok r') : r'.standing key
      = (r.standing key).after (if k = key then r.registering key source else .nothing) := by
  have he := register_ok_iff.mp ⟨r', h⟩
  have hr' : r' = { r with registrations := r.registrations ++ [(k, ⟨source, 0⟩)] } := by
    unfold register at h
    split at h
    · cases h
    · split at h
      · cases h
      · cases h
        rfl
  have added : r'.standing key
      = ⟨(r.registration? key).or (if k = key then some ⟨source, 0⟩ else none), r.kept? key⟩ := by
    rw [hr', standing, registration?, lookup_append_single]
    rfl
  rw [added]
  by_cases hk : k = key
  · subst hk
    have hr : r.registration? k = none := congrArg Standing.registration he
    rw [if_pos rfl, if_pos rfl, registering, h, hr]
    rfl
  · rw [if_neg hk, if_neg hk, Option.or_none]
    rfl

theorem standing_register_fails {source : DefaultSource} {f : Fault}
    (h : r.register k source = .error f) : r.standing key
      = (r.standing key).after (if k = key then r.registering key source else .nothing) := by
  by_cases hk : k = key
  · subst hk
    rw [if_pos rfl, registering, h]
    rfl
  · rw [if_neg hk]
    rfl

/-! ## Resolving -/

theorem registration?_countCall :
    (r.countCall k).registration? key = if k = key
      then (r.registration? key).map fun g => { g with calls := g.calls + 1 }
      else r.registration? key := by
  unfold registration? countCall
  induction r.registrations with
  | nil => simp
  | cons entry rest ih =>
    obtain ⟨j, g⟩ := entry
    rw [List.map_cons, List.lookup_cons, List.lookup_cons]
    by_cases hj : j = k
    · subst hj
      rw [if_pos rfl]
      by_cases hk : j = key
      · subst hk
        simp
      · have hb : (key == j) = false := beq_eq_false_iff_ne.mpr (Ne.symm hk)
        rw [hb]
        exact ih
    · rw [if_neg hj]
      by_cases hk : j = key
      · subst hk
        simp [Ne.symm hj]
      · have hb : (key == j) = false := beq_eq_false_iff_ne.mpr (Ne.symm hk)
        rw [hb]
        exact ih

theorem ask_eq (h : r.kept? key = none) : (r.ask key).1 = (r.standing key).answer key := by
  unfold ask Standing.answer standing
  rw [h]
  dsimp only
  cases hr : r.registration? key with
  | none => rfl
  | some registration =>
    obtain ⟨source, calls⟩ := registration
    cases source with
    | fixed a => rfl
    | factory call => rfl

theorem kept?_ask : (r.ask k).2.kept? key = r.kept? key := by
  unfold ask
  split
  · rfl
  · rfl
  · rfl

theorem registration?_ask : (r.ask k).2.registration? key
    = if k = key then (r.registration? key).map Registration.called else r.registration? key := by
  unfold ask
  split
  · rename_i h
    by_cases hk : k = key
    · subst hk
      rw [if_pos rfl, h]
      rfl
    · rw [if_neg hk]
  · rename_i a calls h
    by_cases hk : k = key
    · subst hk
      rw [if_pos rfl, h]
      rfl
    · rw [if_neg hk]
  · rename_i call calls h
    by_cases hk : k = key
    · subst hk
      rw [registration?_countCall, if_pos rfl, if_pos rfl, h]
      rfl
    · rw [registration?_countCall, if_neg hk, if_neg hk]

theorem resolve_of_kept {spec : Option Projection} (h : r.kept? key = some spec) :
    r.resolve key = (.ok spec, r) := by
  unfold resolve
  rw [h]

theorem resolve_of_error {f : Fault} (h : r.kept? key = none) (ha : (r.ask key).1 = .error f) :
    r.resolve key = (.error f, (r.ask key).2) := by
  rcases hr : r.ask key with ⟨answer, next⟩
  rw [hr] at ha
  unfold resolve
  rw [h, hr]
  cases ha
  rfl

theorem resolve_of_ok {spec : Option Projection} (h : r.kept? key = none)
    (ha : (r.ask key).1 = .ok spec) :
    r.resolve key = (.ok spec,
      { (r.ask key).2 with resolved := (r.ask key).2.resolved ++ [(key, spec)] }) := by
  have hk : (r.ask key).2.kept? key = none := by rw [kept?_ask, h]
  rcases hr : r.ask key with ⟨answer, next⟩
  rw [hr] at ha hk
  unfold resolve
  rw [h, hr]
  cases ha
  dsimp only
  rw [keep, hk]

theorem resolve_answer : (r.resolve key).1 = (r.standing key).answer key := by
  cases h : r.kept? key with
  | some spec =>
    rw [resolve_of_kept h, Standing.answer, standing, h]
  | none =>
    rw [← ask_eq h]
    cases ha : (r.ask key).1 with
    | error f => rw [resolve_of_error h ha]
    | ok spec => rw [resolve_of_ok h ha]

/-- Resolving one kind leaves every other where it stands. -/
theorem standing_resolve_of_ne (hk : k ≠ key) :
    (r.resolve k).2.standing key = r.standing key := by
  cases h : r.kept? k with
  | some spec => rw [resolve_of_kept h]
  | none =>
    have asked : (r.ask k).2.standing key = r.standing key := by
      rw [standing, standing, kept?_ask, registration?_ask, if_neg hk]
    cases ha : (r.ask k).1 with
    | error f =>
      rw [resolve_of_error h ha]
      exact asked
    | ok spec =>
      rw [resolve_of_ok h ha, ← asked]
      refine congrArg (Standing.mk _) ?_
      rw [kept?, lookup_append_single, if_neg hk, Option.or_none]
      rfl

theorem standing_resolve_self :
    (r.resolve key).2.standing key = (r.standing key).after (r.resolving key) := by
  cases h : r.kept? key with
  | some spec =>
    rw [resolving, resolve_of_kept h]
    simp [Standing.after, standing, h]
  | none =>
    have called : (r.ask key).2.registration? key
        = (r.registration? key).map Registration.called := by
      rw [registration?_ask, if_pos rfl]
    cases ha : (r.ask key).1 with
    | error f =>
      rw [resolving, resolve_of_error h ha, standing, called, kept?_ask]
      rfl
    | ok spec =>
      have kept : (r.resolve key).2.kept? key = some spec := by
        rw [resolve_of_ok h ha, kept?, lookup_append_single, if_pos rfl]
        exact congrArg (Option.or · _) (kept?_ask.trans h)
      rw [standing, kept, resolving, resolve_of_ok h ha]
      simp only [Standing.after, standing, h, Option.isSome_none]
      exact congrArg (Standing.mk · _) called

theorem standing_resolve : (r.resolve k).2.standing key
    = (r.standing key).after (if k = key then r.resolving key else .nothing) := by
  by_cases hk : k = key
  · subst hk
    rw [if_pos rfl, standing_resolve_self]
  · rw [if_neg hk, standing_resolve_of_ne hk]
    rfl

/-! ## Any call -/

theorem projectionFor_snd (projection : Argument) : (r.projectionFor k projection).2
    = if projection.ifGiven.isNone then (r.resolve k).2 else r := by
  unfold projectionFor
  cases projection.ifGiven with
  | some given => rfl
  | none =>
    rcases r.resolve k with ⟨answer, next⟩
    match answer with
    | .error f => rfl
    | .ok none => rfl
    | .ok (some spec) => rfl

/-- What becomes of a kind is told by what the call does to it. -/
theorem standing_call (c : Call) :
    (r.call c).2.standing key = (r.standing key).after (r.deed key c) := by
  cases c with
  | register k source =>
    unfold call
    dsimp only
    cases h : r.register k source with
    | ok r' => exact standing_register h
    | error f => exact standing_register_fails h
  | declare k source =>
    unfold call declare
    dsimp only
    cases h : r.register k source with
    | ok r' => exact standing_register h
    | error f => exact standing_register_fails h
  | isRegistered k => rfl
  | resolve k => exact standing_resolve
  | projectionFor k projection =>
    have hr : (r.call (.projectionFor k projection)).2 = (r.projectionFor k projection).2 := rfl
    rw [hr, projectionFor_snd, deed]
    by_cases hp : projection.ifGiven.isNone = true
    · rw [if_pos hp, standing_resolve]
      simp [hp]
    · rw [if_neg hp, if_neg fun h => hp h.2]
      rfl

/-- What a call does to a kind depends on where the kind stands only. -/
theorem deed_congr {r' : Defaults} (h : r.standing key = r'.standing key) (c : Call) :
    r.deed key c = r'.deed key c := by
  have registers (source : DefaultSource) :
      r.registering key source = r'.registering key source := by
    have hok : (∃ t, r.register key source = .ok t) ↔ ∃ t, r'.register key source = .ok t := by
      rw [register_ok_iff, register_ok_iff, h]
    unfold registering
    cases hr : r.register key source with
    | ok t =>
      obtain ⟨t', ht⟩ := hok.mp ⟨t, hr⟩
      rw [ht]
    | error f =>
      cases hr' : r'.register key source with
      | error f' => rfl
      | ok t' =>
        obtain ⟨t, ht⟩ := hok.mpr ⟨t', hr'⟩
        rw [hr] at ht
        cases ht
  have resolves : r.resolving key = r'.resolving key := by
    rw [resolving, resolving, resolve_answer, resolve_answer, h]
  cases c with
  | register k source => rw [deed, deed, registers]
  | declare k source => rw [deed, deed, registers]
  | isRegistered k => rfl
  | resolve k => rw [deed, deed, resolves]
  | projectionFor k projection => rw [deed, deed, resolves]

end Defaults

/-- The deeds that are possible where a kind stands. -/
def Standing.Admits (key : ResultKey) (s : Standing) : Deed → Prop
  | .registers _ => s = {}
  | .resolves spec => s.answer key = .ok spec
  | .fails fault => s.answer key = .error fault
  | .nothing => True

namespace Defaults

variable {r : Defaults} {key : ResultKey}

theorem registering_admitted (source : DefaultSource) :
    (r.standing key).Admits key (r.registering key source) := by
  unfold registering
  split
  · rename_i r' h
    exact register_ok_iff.mp ⟨r', h⟩
  · trivial

theorem resolving_admitted : (r.standing key).Admits key (r.resolving key) := by
  unfold resolving
  split
  · rename_i spec h
    exact resolve_answer.symm.trans h
  · rename_i fault h
    exact resolve_answer.symm.trans h

theorem deed_admitted (c : Call) : (r.standing key).Admits key (r.deed key c) := by
  cases c with
  | register k source | declare k source =>
    unfold deed
    dsimp only
    split
    · exact registering_admitted source
    · trivial
  | isRegistered k => trivial
  | resolve k | projectionFor k projection =>
    unfold deed
    dsimp only
    split
    · exact resolving_admitted
    · trivial

end Defaults
end DocSearch
