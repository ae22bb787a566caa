import DocSearch.Proofs.Defaults.Account

/-! # The life of a default

A history is a sequence of calls on registries, each known by its name. What its calls did to a kind
accounts for where the kind stands in the end, and for what each of them answered. Calls on other
kinds and on other registries take no part. -/

namespace DocSearch

/-! ## Histories -/

/-- Registries by their names. -/
abbrev Registries := String → Defaults

/-- Calls in order, each on the registry of a name. -/
abbrev History := List (String × Defaults.Call)

namespace Registries

/-- Registries as they are made: with no default and no answer. -/
def fresh : Registries := fun _ => {}

def call (rs : Registries) (name : String) (c : Defaults.Call) : Registries :=
  fun n => if n = name then ((rs name).call c).2 else rs n

def run (rs : Registries) : History → Registries
  | [] => rs
  | (name, c) :: rest => run (rs.call name c) rest

/-- What the calls of a history answer, in order. -/
def answers (rs : Registries) : History → List (Except Fault Defaults.Answer)
  | [] => []
  | (name, c) :: rest => ((rs name).call c).1 :: answers (rs.call name c) rest

/-- What the calls of a history do to a kind in the registry of a name. -/
def deeds (rs : Registries) (name : String) (key : ResultKey) : History → List Deed
  | [] => []
  | (n, c) :: rest =>
    (if n = name then (rs n).deed key c else .nothing) :: deeds (rs.call n c) name key rest

variable {rs : Registries} {name : String} {key : ResultKey}

theorem standing_call (n : String) (c : Defaults.Call) :
    (rs.call n c name).standing key
      = ((rs name).standing key).after (if n = name then (rs n).deed key c else .nothing) := by
  unfold call
  by_cases h : n = name
  · subst h
    rw [if_pos rfl, if_pos rfl]
    exact Defaults.standing_call c
  · rw [if_neg h, if_neg (Ne.symm h)]
    rfl

theorem answers_concat (history : History) (n : String) (c : Defaults.Call) :
    rs.answers (history ++ [(n, c)])
      = rs.answers history ++ [((rs.run history n).call c).1] := by
  induction history generalizing rs with
  | nil => rfl
  | cons entry rest ih =>
    rw [List.cons_append, answers, answers, run, ih]
    rfl

theorem deeds_concat (history : History) (n : String) (c : Defaults.Call) :
    rs.deeds name key (history ++ [(n, c)]) = rs.deeds name key history
      ++ [if n = name then (rs.run history n).deed key c else .nothing] := by
  induction history generalizing rs with
  | nil => rfl
  | cons entry rest ih =>
    rw [List.cons_append, deeds, deeds, run, ih]
    rfl

theorem account_run {past : List Deed} (history : History)
    (h : ((rs name).standing key).Account past) :
    ((rs.run history name).standing key).Account (past ++ rs.deeds name key history) := by
  induction history generalizing rs past with
  | nil =>
    rw [deeds, List.append_nil]
    exact h
  | cons entry rest ih =>
    obtain ⟨n, c⟩ := entry
    have hd : ((rs name).standing key).Admits key
        (if n = name then (rs n).deed key c else .nothing) := by
      split
      · rename_i hn
        rw [hn]
        exact Defaults.deed_admitted c
      · trivial
    have hc := h.step hd
    rw [← standing_call] at hc
    rw [run, deeds, List.append_cons]
    exact ih hc

end Registries

/-- Whether a call can do anything to a kind. -/
def Defaults.Call.concerns (key : ResultKey) : Defaults.Call → Bool
  | .register k _ | .declare k _ | .resolve k => k == key
  | .isRegistered _ => false
  | .projectionFor k projection => k == key && projection.ifGiven.isNone

theorem Defaults.deed_of_not_concerns {r : Defaults} {key : ResultKey} {c : Defaults.Call}
    (h : c.concerns key = false) : r.deed key c = .nothing := by
  cases c with
  | register k source | declare k source | resolve k =>
    exact if_neg (by simpa [Call.concerns] using h)
  | isRegistered k => rfl
  | projectionFor k projection =>
    refine if_neg fun hk => ?_
    rw [Call.concerns, hk.1, hk.2, beq_self_eq_true] at h
    cases h

namespace Registries

variable {name : String} {key : ResultKey}

/-- Whether a call on a registry can do anything to a kind in the registry of a name. -/
def concerns (name : String) (key : ResultKey) (entry : String × Defaults.Call) : Bool :=
  entry.1 == name && entry.2.concerns key

/-- Calls that do not concern a kind may as well be left out of a history. -/
theorem standing_run_filter {rs ts : Registries} (history : History)
    (h : (rs name).standing key = (ts name).standing key) :
    (rs.run (history.filter (concerns name key)) name).standing key
      = (ts.run history name).standing key := by
  induction history generalizing rs ts with
  | nil => exact h
  | cons entry rest ih =>
    obtain ⟨n, c⟩ := entry
    cases hc : concerns name key (n, c) with
    | true =>
      rw [List.filter_cons_of_pos hc, run, run]
      refine ih ?_
      obtain ⟨hn, _⟩ := Bool.and_eq_true_iff.mp hc
      have hn : n = name := beq_iff_eq.mp hn
      subst hn
      rw [standing_call, standing_call, if_pos rfl, if_pos rfl, Defaults.deed_congr h, h]
    | false =>
      rw [List.filter_cons_of_neg (Bool.eq_false_iff.mp hc), run]
      refine ih ?_
      have nothing : (if n = name then (ts n).deed key c else .nothing) = Deed.nothing := by
        split
        · rename_i hn
          rw [concerns, hn, beq_self_eq_true, Bool.true_and] at hc
          exact Defaults.deed_of_not_concerns hc
        · rfl
      rw [standing_call, nothing]
      exact h

end Registries

/-- What of a kind shows: its default, and the answer kept for it. -/
def Defaults.shown (r : Defaults) (key : ResultKey) :
    Option DefaultSource × Option (Option Projection) :=
  ((r.registration? key).map Registration.source, r.kept? key)

/-- A resolution that fails does not show. -/
theorem Defaults.shown_of_fails {r : Defaults} {key : ResultKey} {f : Fault}
    (h : (r.resolve key).1 = .error f) (k : ResultKey) :
    (r.resolve key).2.shown k = r.shown k := by
  by_cases hk : key = k
  · subst hk
    have hs := @standing_resolve_self r key
    rw [resolving, h] at hs
    have hr : (r.resolve key).2.registration? key = (r.registration? key).map Registration.called :=
      congrArg Standing.registration hs
    have hkept : (r.resolve key).2.kept? key = r.kept? key := congrArg Standing.kept hs
    rw [shown, shown, hr, hkept, Option.map_map]
    refine congrArg (Prod.mk · _) ?_
    exact congrArg (Option.map · _) (funext Registration.source_called)
  · have hs := @standing_resolve_of_ne r k key hk
    have hr : (r.resolve key).2.registration? k = r.registration? k :=
      congrArg Standing.registration hs
    have hkept : (r.resolve key).2.kept? k = r.kept? k := congrArg Standing.kept hs
    rw [shown, shown, hr, hkept]

/-- What a history comes to for one kind in a registry, to which its calls did `past`. -/
structure Lifecycle (r : Defaults) (key : ResultKey) (past : List Deed) : Prop where
  /-- A default can be registered exactly if none was, and the kind was not resolved. -/
  register_iff : ∀ source, (∃ r', r.register key source = .ok r') ↔ Untouched past
  registered_once : past.countP Deed.isRegistration ≤ 1
  isRegistered_iff : r.isRegistered key = true ↔ ∃ source, .registers source ∈ past
  resolved_alike : ∀ s t, .resolves s ∈ past → .resolves t ∈ past → s = t
  /-- What was resolved once is the answer for good, and asking for it changes nothing. -/
  resolved_for_good : ∀ s, .resolves s ∈ past → r.resolve key = (.ok s, r)
  /-- Each failure took one call of the factory, and the first success one more. -/
  factory_calls : ∀ call, .registers (.factory call) ∈ past →
    r.registration? key = some ⟨.factory call,
      past.countP Deed.isFailure + if past.any Deed.isResolution then 1 else 0⟩
  register_fails : ∀ source fault, r.register key source = .error fault →
    (r.call (.register key source)).2 = r ∧ (r.call (.declare key source)).2 = r
  resolve_fails : ∀ fault, (r.resolve key).1 = .error fault →
    ∀ k, (r.resolve key).2.shown k = r.shown k

theorem Standing.Account.lifecycle {r : Defaults} {key : ResultKey} {past : List Deed}
    (h : (r.standing key).Account past) : Lifecycle r key past where
  register_iff _ := Defaults.register_ok_iff.trans h.eq_new_iff
  registered_once := by
    rw [h.once]
    split
    · exact Nat.le_refl 1
    · exact Nat.zero_le 1
  isRegistered_iff := h.registration_isSome_iff
  resolved_alike s t hs ht :=
    Option.some.inj (((h.kept s).mpr hs).symm.trans ((h.kept t).mpr ht))
  resolved_for_good s hs := Defaults.resolve_of_kept ((h.kept s).mpr hs)
  factory_calls call hm := by
    obtain ⟨calls, hr⟩ := (h.registered _).mpr hm
    have hc := h.calls call calls hr
    rw [h.kept_isSome] at hc
    rw [← hc]
    exact hr
  register_fails source fault hf := by
    have hd : r.declare key source = .error fault := by rw [Defaults.declare, hf]; rfl
    constructor
    · rw [Defaults.call, hf]
    · rw [Defaults.call, hd]
  resolve_fails _ hf k := Defaults.shown_of_fails hf k

/-- How the next call of a history goes on with a kind in the registry of a name. -/
structure Registries.Continues (history : History) (name : String) (key : ResultKey) : Prop where
  /-- A call about the kind answers what the deeds done to it come to. -/
  responds : ∀ c : Defaults.Call, c.key = key → ∃ d answer,
    fresh.deeds name key (history ++ [(name, c)]) = fresh.deeds name key history ++ [d] ∧
    fresh.answers (history ++ [(name, c)]) = fresh.answers history ++ [answer] ∧
    Defaults.Responds key (fresh.deeds name key history) c d answer
  /-- A call on another registry or about another kind does nothing to it. -/
  apart : ∀ n (c : Defaults.Call), n ≠ name ∨ c.key ≠ key →
    fresh.deeds name key (history ++ [(n, c)]) = fresh.deeds name key history ++ [.nothing]

theorem Defaults.deed_of_ne {r : Defaults} {key : ResultKey} {c : Defaults.Call}
    (h : c.key ≠ key) : r.deed key c = .nothing := by
  cases c with
  | register k source | declare k source | resolve k => exact if_neg h
  | isRegistered k => rfl
  | projectionFor k projection => exact if_neg fun hk => h hk.1

theorem Registries.continues (history : History) (name : String) (key : ResultKey) :
    Continues history name key where
  responds c hc := by
    have account := @account_run fresh name key [] history Standing.account_new
    refine ⟨_, _, deeds_concat history name c, answers_concat history name c, ?_⟩
    rw [if_pos rfl]
    exact Defaults.responds account hc
  apart n c h := by
    rw [deeds_concat]
    split
    · rename_i hn
      rw [Defaults.deed_of_ne (h.resolve_left fun hne => hne hn)]
    · rfl

/-- After any history of calls on registries, a kind in one of them is where the deeds done to it
account for, and they decide what the next call about it answers; they are done by the calls on this
kind in this registry alone. -/
theorem Registries.run_lifecycle (history : History) (name : String) (key : ResultKey) :
    Lifecycle (fresh.run history name) key (fresh.deeds name key history) ∧
      Continues history name key ∧
      (fresh.run (history.filter (concerns name key)) name).standing key
        = (fresh.run history name).standing key := by
  have h := @account_run fresh name key [] history Standing.account_new
  exact ⟨h.lifecycle, continues history name key, standing_run_filter history rfl⟩

/-- A factory that fails when it is first called. -/
def DefaultSource.failingOnce : DefaultSource :=
  .factory fun calls => if calls = 0 then .error (.notProjection "Film" "dict") else .ok .null

example :
    let film : ResultKey := ⟨"film", "Film"⟩
    let history : History := [("a", .register film .failingOnce), ("a", .resolve film),
      ("b", .resolve film), ("a", .projectionFor film .null), ("a", .register film (.fixed .null))]
    Registries.fresh.answers history = [.ok .registered, .error (.notProjection "Film" "dict"),
      .ok (.spec none), .ok (.document none), .error (.alreadyRegistered "Film")] := by
  rfl

end DocSearch
