import DocSearch.Proofs.Defaults.Standing

/-! # What deeds account for

The deeds done to a kind account for where it stands: whether a default is registered, which answer
is kept, and how often a factory was called. They also decide what the next call about the kind
answers, and what that call does to it in turn. -/

namespace DocSearch

namespace Deed

def isRegistration : Deed → Bool
  | .registers _ => true
  | _ => false

def isResolution : Deed → Bool
  | .resolves _ => true
  | _ => false

def isFailure : Deed → Bool
  | .fails _ => true
  | _ => false

end Deed

/-! ## Accounting for where a kind stands -/

/-- Nothing was registered for a kind, and it was not resolved. -/
def Untouched (past : List Deed) : Prop :=
  ∀ d ∈ past, d.isRegistration = false ∧ d.isResolution = false

namespace Standing

/-- The deeds up to now account for where a kind stands. -/
structure Account (s : Standing) (past : List Deed) : Prop where
  registered : ∀ source, (∃ calls, s.registration = some ⟨source, calls⟩) ↔ .registers source ∈ past
  kept : ∀ spec, s.kept = some spec ↔ .resolves spec ∈ past
  calls : ∀ call n, s.registration = some ⟨.factory call, n⟩ →
    n = past.countP Deed.isFailure + if s.kept.isSome then 1 else 0
  once : past.countP Deed.isRegistration = if s.registration.isSome then 1 else 0
  unfailed : s.registration = none → past.countP Deed.isFailure = 0

theorem account_new : Account {} [] where
  registered _ := ⟨nofun, nofun⟩
  kept _ := ⟨nofun, nofun⟩
  calls _ _ := nofun
  once := rfl
  unfailed _ := rfl

variable {s : Standing} {key : ResultKey} {past : List Deed}

theorem map_called_eq_some {g : Option Registration} {source : DefaultSource} {n : Nat}
    (h : g.map Registration.called = some ⟨source, n⟩) : ∃ m, g = some ⟨source, m⟩ := by
  obtain ⟨registration, rfl, hr⟩ := Option.map_eq_some_iff.mp h
  have hs := registration.source_called
  rw [hr] at hs
  cases hs
  exact ⟨_, rfl⟩

theorem registered_called {g : Option Registration} {source : DefaultSource} :
    (∃ n, g.map Registration.called = some ⟨source, n⟩) ↔ ∃ n, g = some ⟨source, n⟩ := by
  constructor
  · rintro ⟨n, h⟩
    exact map_called_eq_some h
  · rintro ⟨n, rfl⟩
    cases source with
    | fixed a => exact ⟨n, rfl⟩
    | factory call => exact ⟨n + 1, rfl⟩

theorem map_called_factory {g : Option Registration} {call : Nat → Except Fault Argument} {n : Nat}
    (h : g.map Registration.called = some ⟨.factory call, n⟩) :
    ∃ m, g = some ⟨.factory call, m⟩ ∧ n = m + 1 := by
  obtain ⟨m, rfl⟩ := map_called_eq_some h
  cases h
  exact ⟨m, rfl, rfl⟩

theorem mem_snoc {d e : Deed} (h : e ≠ d) : e ∈ past ++ [d] ↔ e ∈ past := by
  rw [List.mem_append, List.mem_singleton]
  exact ⟨fun hm => hm.resolve_right h, .inl⟩

theorem answer_error {f : Fault} (h : s.answer key = .error f) :
    s.kept = none ∧ s.registration.isSome = true := by
  unfold answer at h
  split at h
  · cases h
  · rename_i hk
    split at h
    · cases h
    · rename_i hr
      rw [hk, hr]
      exact ⟨rfl, rfl⟩

theorem answer_of_kept {spec : Option Projection} (h : s.kept = some spec) :
    s.answer key = .ok spec := by
  unfold answer
  rw [h]

namespace Account

theorem registers (h : s.Account past) {source : DefaultSource} (hs : s = {}) :
    (s.after (.registers source)).Account (past ++ [.registers source]) := by
  subst hs
  have failures : past.countP Deed.isFailure = 0 := h.unfailed rfl
  have registrations : past.countP Deed.isRegistration = 0 := h.once
  refine ⟨fun other => ?_, fun spec => ?_, fun call n hn => ?_, ?_, fun hr => ?_⟩
  · have hnone : .registers other ∉ past := fun hm => by
      obtain ⟨_, hr⟩ := (h.registered other).mpr hm
      cases hr
    constructor
    · rintro ⟨n, hr⟩
      cases hr
      exact List.mem_append_right _ (.head _)
    · intro hm
      rcases List.mem_append.mp hm with hm | hm
      · exact absurd hm hnone
      · cases List.mem_singleton.mp hm
        exact ⟨0, rfl⟩
  · rw [mem_snoc (by simp), ← h.kept spec]
    exact Iff.rfl
  · cases hn
    rw [List.countP_append, failures]
    rfl
  · rw [List.countP_append, registrations]
    rfl
  · cases hr

theorem fails (h : s.Account past) {f : Fault} (hf : s.answer key = .error f) :
    (s.after (.fails f)).Account (past ++ [.fails f]) := by
  obtain ⟨hk, hr⟩ := answer_error hf
  refine ⟨fun source => ?_, fun spec => ?_, fun call n hn => ?_, ?_, fun hnone => ?_⟩
  · rw [mem_snoc (by simp), ← h.registered source]
    exact registered_called
  · rw [mem_snoc (by simp), ← h.kept spec]
    exact Iff.rfl
  · obtain ⟨m, hm, rfl⟩ := map_called_factory hn
    have hc := h.calls call m hm
    rw [hk] at hc
    rw [List.countP_append, hc, after, hk]
    rfl
  · rw [List.countP_append, h.once, after, Option.isSome_map]
    rfl
  · rw [Option.map_eq_none_iff.mp hnone] at hr
    cases hr

theorem resolves (h : s.Account past) {spec : Option Projection} (hs : s.answer key = .ok spec) :
    (s.after (.resolves spec)).Account (past ++ [.resolves spec]) := by
  have registrations : (past ++ [Deed.resolves spec]).countP Deed.isRegistration
      = past.countP Deed.isRegistration := by rw [List.countP_append]; rfl
  have failures : (past ++ [Deed.resolves spec]).countP Deed.isFailure
      = past.countP Deed.isFailure := by rw [List.countP_append]; rfl
  cases hk : s.kept with
  | some earlier =>
    -- The answer is the one that is kept, so nothing is called and nothing changes.
    have he : earlier = spec := Except.ok.inj ((answer_of_kept hk).symm.trans hs)
    have same : s.after (.resolves spec) = s := by rw [after, hk]; rfl
    rw [same]
    refine ⟨fun source => ?_, fun other => ?_, fun call n hn => ?_, ?_, fun hr => ?_⟩
    · rw [mem_snoc (by simp), h.registered source]
    · rw [List.mem_append, List.mem_singleton, ← h.kept other]
      refine ⟨.inl, fun hm => hm.elim id fun ho => ?_⟩
      cases ho
      rw [hk, he]
    · rw [failures]
      exact h.calls call n hn
    · rw [registrations, h.once]
    · rw [failures, h.unfailed hr]
  | none =>
    have kept : (s.after (.resolves spec)).kept = some spec := by rw [after, hk]; rfl
    have called : (s.after (.resolves spec)).registration
        = s.registration.map Registration.called := by rw [after, hk]; rfl
    refine ⟨fun source => ?_, fun other => ?_, fun call n hn => ?_, ?_, fun hr => ?_⟩
    · rw [mem_snoc (by simp), called, registered_called, h.registered source]
    · have hnone : .resolves other ∉ past := fun hm => by
        rw [(h.kept other).mpr hm] at hk
        cases hk
      rw [kept, List.mem_append, List.mem_singleton]
      constructor
      · intro he
        cases he
        exact .inr rfl
      · intro hm
        cases hm.resolve_left hnone
        rfl
    · rw [called] at hn
      obtain ⟨m, hm, rfl⟩ := map_called_factory hn
      have hc := h.calls call m hm
      rw [hk] at hc
      rw [failures, kept, hc]
      rfl
    · rw [registrations, called, h.once, Option.isSome_map]
    · rw [called] at hr
      rw [failures, h.unfailed (Option.map_eq_none_iff.mp hr)]

theorem nothing (h : s.Account past) : s.Account (past ++ [.nothing]) := by
  refine ⟨fun source => ?_, fun spec => ?_, fun call n hn => ?_, ?_, fun hr => ?_⟩
  · rw [mem_snoc (by simp), ← h.registered source]
  · rw [mem_snoc (by simp), ← h.kept spec]
  · rw [List.countP_append]
    exact h.calls call n hn
  · rw [List.countP_append]
    exact h.once
  · rw [List.countP_append]
    exact h.unfailed hr

/-- Whatever is possible where a kind stands, the account goes on. -/
theorem step (h : s.Account past) {d : Deed} (hd : s.Admits key d) :
    (s.after d).Account (past ++ [d]) := by
  cases d with
  | registers source => exact h.registers hd
  | resolves spec => exact h.resolves hd
  | fails fault => exact h.fails hd
  | nothing => exact h.nothing

theorem kept_isSome (h : s.Account past) : s.kept.isSome = past.any Deed.isResolution := by
  rw [Bool.eq_iff_iff, List.any_eq_true, Option.isSome_iff_exists]
  constructor
  · rintro ⟨spec, hs⟩
    exact ⟨_, (h.kept spec).mp hs, rfl⟩
  · rintro ⟨d, hd, hr⟩
    cases d with
    | resolves spec => exact ⟨spec, (h.kept spec).mpr hd⟩
    | registers | fails | nothing => cases hr

theorem registration_isSome_iff (h : s.Account past) :
    s.registration.isSome = true ↔ ∃ source, .registers source ∈ past := by
  rw [Option.isSome_iff_exists]
  constructor
  · rintro ⟨⟨source, calls⟩, hr⟩
    exact ⟨source, (h.registered source).mp ⟨calls, hr⟩⟩
  · rintro ⟨source, hm⟩
    obtain ⟨calls, hr⟩ := (h.registered source).mpr hm
    exact ⟨_, hr⟩

/-- A kind is as new exactly if it was neither registered nor resolved. -/
theorem eq_new_iff (h : s.Account past) : s = {} ↔ Untouched past := by
  constructor
  · rintro rfl d hd
    cases d with
    | registers source =>
      obtain ⟨calls, hc⟩ := (h.registered source).mpr hd
      cases hc
    | resolves spec => cases (h.kept spec).mpr hd
    | fails | nothing => exact ⟨rfl, rfl⟩
  · intro hd
    obtain ⟨registration, kept⟩ := s
    cases registration with
    | some g =>
      obtain ⟨source, hm⟩ := h.registration_isSome_iff.mp rfl
      cases (hd _ hm).1
    | none =>
      cases kept with
      | some spec => cases (hd _ ((h.kept spec).mp rfl)).2
      | none => rfl

end Account
end Standing

/-! ## Answers -/

/-- What a resolution of a kind comes to after the deeds done to it: what it was resolved to before,
else what its default gives. A factory is told how often it has failed. -/
inductive Resolution (key : ResultKey) (past : List Deed) : Except Fault (Option Projection) → Prop
  | kept {spec : Option Projection} : .resolves spec ∈ past → Resolution key past (.ok spec)
  | unregistered : Untouched past → Resolution key past (.ok none)
  | fixed {a : Argument} : .registers (.fixed a) ∈ past → (∀ d ∈ past, d.isResolution = false) →
      Resolution key past (Defaults.specOf key a)
  | factory {call : Nat → Except Fault Argument} : .registers (.factory call) ∈ past →
      (∀ d ∈ past, d.isResolution = false) →
      Resolution key past (call (past.countP Deed.isFailure) >>= Defaults.specOf key)

namespace Defaults

/-- The kind that a call is about. -/
def Call.key : Call → ResultKey
  | .register key _ | .declare key _ | .isRegistered key | .resolve key | .projectionFor key _ => key

/-- Why a default is refused for a kind. -/
inductive Refusal (key : ResultKey) (past : List Deed) : Fault → Prop
  | registered {source : DefaultSource} : .registers source ∈ past →
      Refusal key past (.alreadyRegistered key.name)
  | resolved {spec : Option Projection} : (∀ d ∈ past, d.isRegistration = false) →
      .resolves spec ∈ past → Refusal key past (.alreadyResolved key.name)

/-- What a call about a kind answers after the deeds done to it, and what it does to it in turn. -/
inductive Responds (key : ResultKey) (past : List Deed) :
    Call → Deed → Except Fault Answer → Prop
  | registered (source : DefaultSource) : Untouched past →
      Responds key past (.register key source) (.registers source) (.ok .registered)
  | declared (source : DefaultSource) : Untouched past →
      Responds key past (.declare key source) (.registers source) (.ok (.declared key))
  | unregistered (source : DefaultSource) {fault : Fault} : Refusal key past fault →
      Responds key past (.register key source) .nothing (.error fault)
  | undeclared (source : DefaultSource) {fault : Fault} : Refusal key past fault →
      Responds key past (.declare key source) .nothing (.error fault)
  | flag : Responds key past (.isRegistered key) .nothing
      (.ok (.flag (past.any Deed.isRegistration)))
  | resolved {spec : Option Projection} : Resolution key past (.ok spec) →
      Responds key past (.resolve key) (.resolves spec) (.ok (.spec spec))
  | failed {fault : Fault} : Resolution key past (.error fault) →
      Responds key past (.resolve key) (.fails fault) (.error fault)
  /-- Without a projection the document is that of the default. -/
  | defaulted {projection : Argument} {spec : Option Projection} : projection.ifGiven = none →
      Resolution key past (.ok spec) →
      Responds key past (.projectionFor key projection) (.resolves spec)
        ((spec.mapM Projection.render).map fun document => .document (document.map .object))
  | undefaulted {projection : Argument} {fault : Fault} : projection.ifGiven = none →
      Resolution key past (.error fault) →
      Responds key past (.projectionFor key projection) (.fails fault) (.error fault)
  /-- The document of a projection that is given has nothing to do with the default. -/
  | given {projection given : Argument} : projection.ifGiven = some given →
      Responds key past (.projectionFor key projection) .nothing
        (given.render.map fun document => .document (some document))

end Defaults

namespace Standing.Account

variable {s : Standing} {key : ResultKey} {past : List Deed}

theorem registration_isSome (h : s.Account past) :
    s.registration.isSome = past.any Deed.isRegistration := by
  rw [Bool.eq_iff_iff, h.registration_isSome_iff, List.any_eq_true]
  constructor
  · rintro ⟨source, hm⟩
    exact ⟨_, hm, rfl⟩
  · rintro ⟨d, hd, hr⟩
    cases d with
    | registers source => exact ⟨source, hd⟩
    | resolves | fails | nothing => cases hr

/-- What a kind answers where it stands is what the deeds done to it come to. -/
theorem resolution (h : s.Account past) : Resolution key past (s.answer key) := by
  unfold answer
  cases hk : s.kept with
  | some spec => exact .kept ((h.kept spec).mp hk)
  | none =>
    have unresolved : ∀ d ∈ past, d.isResolution = false := by
      have none_resolved := h.kept_isSome
      rw [hk] at none_resolved
      simpa using none_resolved.symm
    cases hr : s.registration with
    | none =>
      refine .unregistered (h.eq_new_iff.mp ?_)
      obtain ⟨registration, kept⟩ := s
      cases hk
      cases hr
      rfl
    | some registration =>
      obtain ⟨source, calls⟩ := registration
      have registered : .registers source ∈ past := (h.registered source).mp ⟨calls, hr⟩
      cases source with
      | fixed a => exact .fixed registered unresolved
      | factory call =>
        have failures := h.calls call calls hr
        rw [hk] at failures
        obtain rfl : calls = past.countP Deed.isFailure := failures
        exact .factory registered unresolved

end Standing.Account

namespace Defaults

variable {r : Defaults} {key : ResultKey} {past : List Deed}

theorem refusal_of_error (h : (r.standing key).Account past) {source : DefaultSource} {fault : Fault}
    (hf : r.register key source = .error fault) : Refusal key past fault := by
  unfold register at hf
  split at hf
  · rename_i hr
    cases hf
    obtain ⟨source, hm⟩ := h.registration_isSome_iff.mp hr
    exact .registered hm
  · rename_i hr
    split at hf
    · rename_i hk
      cases hf
      obtain ⟨spec, hs⟩ := Option.isSome_iff_exists.mp hk
      have none_registered : past.any Deed.isRegistration = false := by
        rw [← h.registration_isSome]
        exact Bool.eq_false_iff.mpr hr
      exact .resolved (by simpa using none_registered) ((h.kept spec).mp hs)
    · cases hf

theorem resolution_resolve (h : (r.standing key).Account past) :
    Resolution key past (r.resolve key).1 := by
  rw [resolve_answer]
  exact h.resolution

theorem responds_projectionFor (h : (r.standing key).Account past) (projection : Argument) :
    Responds key past (.projectionFor key projection) (r.deed key (.projectionFor key projection))
      (r.call (.projectionFor key projection)).1 := by
  have resolution := resolution_resolve h
  cases hp : projection.ifGiven with
  | some given =>
    have deed : r.deed key (.projectionFor key projection) = .nothing := by simp [deed, hp]
    have answer : (r.call (.projectionFor key projection)).1
        = given.render.map fun document => .document (some document) := by
      rw [call, projectionFor, hp]
      dsimp only
      cases given.render <;> rfl
    rw [deed, answer]
    exact .given hp
  | none =>
    have deed : r.deed key (.projectionFor key projection) = r.resolving key := by simp [deed, hp]
    rw [deed, resolving, call, projectionFor, hp]
    rcases hr : r.resolve key with ⟨outcome, after⟩
    rw [hr] at resolution
    cases outcome with
    | error fault => exact .undefaulted hp resolution
    | ok chosen =>
      cases chosen with
      | none => exact .defaulted hp resolution
      | some spec =>
        have answer : Except.map Answer.document
            (spec.render.map fun document => some (Value.object document))
            = ((some spec).mapM Projection.render).map fun document =>
              .document (document.map .object) := by
          rw [Option.mapM_some]
          cases spec.render <;> rfl
        dsimp only
        rw [answer]
        exact .defaulted hp resolution

/-- A call about a kind answers what the deeds done to the kind make it answer. -/
theorem responds (h : (r.standing key).Account past) {c : Call} (hc : c.key = key) :
    Responds key past c (r.deed key c) (r.call c).1 := by
  have untouched {source : DefaultSource} {r' : Defaults} (hr : r.register key source = .ok r') :
      Untouched past := h.eq_new_iff.mp (register_ok_iff.mp ⟨r', hr⟩)
  cases c with
  | register k source =>
    obtain rfl : k = key := hc
    rw [deed, if_pos rfl, registering, call]
    cases hr : r.register k source with
    | ok r' => exact .registered source (untouched hr)
    | error fault => exact .unregistered source (refusal_of_error h hr)
  | declare k source =>
    obtain rfl : k = key := hc
    rw [deed, if_pos rfl, registering, call, declare]
    cases hr : r.register k source with
    | ok r' => exact .declared source (untouched hr)
    | error fault => exact .undeclared source (refusal_of_error h hr)
  | isRegistered k =>
    obtain rfl : k = key := hc
    have flag : r.isRegistered k = past.any Deed.isRegistration := h.registration_isSome
    rw [deed, call, flag]
    exact .flag
  | resolve k =>
    obtain rfl : k = key := hc
    have resolution := resolution_resolve h
    rw [deed, if_pos rfl, resolving, call]
    rcases hr : r.resolve k with ⟨outcome, after⟩
    rw [hr] at resolution
    cases outcome with
    | ok spec => exact .resolved resolution
    | error fault => exact .failed resolution
  | projectionFor k projection =>
    obtain rfl : k = key := hc
    exact responds_projectionFor h projection

end Defaults

end DocSearch
