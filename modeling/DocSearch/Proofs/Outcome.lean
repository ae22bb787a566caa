import DocSearch.Fault

/-! # Outcomes

A chain of steps that may fail has succeeded only if each of its steps has. These lemmas peel the
first step off a successful chain. A chain whose first step is the only one that can fail, fails when
that one does. -/

namespace DocSearch.Outcome

variable {ε α β : Type}

theorem map_eq_ok {x : Except ε α} {f : α → β} {b : β} (h : x.map f = .ok b) :
    ∃ a, x = .ok a ∧ f a = b := by
  cases x with
  | error fault => cases h
  | ok a => exact ⟨a, rfl, Except.ok.inj h⟩

theorem map_eq_error {x : Except ε α} {f : α → β} {e : ε} (h : x.map f = .error e) :
    x = .error e := by
  cases x with
  | error fault => exact congrArg Except.error (Except.error.inj h)
  | ok a => cases h

theorem bind_eq_ok {x : Except ε α} {f : α → Except ε β} {b : β} (h : x >>= f = .ok b) :
    ∃ a, x = .ok a ∧ f a = .ok b := by
  cases x with
  | error fault => cases h
  | ok a => exact ⟨a, rfl, h⟩

theorem bind_eq_error {x : Except ε α} {f : α → Except ε β} {e : ε} (h : x >>= f = .error e) :
    x = .error e ∨ ∃ a, x = .ok a ∧ f a = .error e := by
  cases x with
  | error fault => exact .inl (congrArg Except.error (Except.error.inj h))
  | ok a => exact .inr ⟨a, rfl, h⟩

theorem mapM_map_ok {α β γ : Type} {f : β → Except ε γ} {g : α → β} {k : α → γ}
    (h : ∀ a, f (g a) = .ok (k a)) (as : List α) : (as.map g).mapM f = .ok (as.map k) := by
  induction as with
  | nil => rfl
  | cons a as ih =>
    rw [List.map_cons, List.mapM_cons, h, ih]
    rfl

theorem mapM_some {f : α → Except ε β} {a : α} : (some a).mapM f = (f a).map some := rfl

/-- The outcome is a fault if and only if `p`, and then one of the kind. -/
structure FailsIff (p : Prop) (kind : FaultKind) (x : Except Fault α) : Prop where
  iff : (∃ fault, x = .error fault) ↔ p
  kind : ∀ fault, x = .error fault → fault.kind = kind

namespace FailsIff

variable {p : Prop} {kind : FaultKind}

theorem error {fault : Fault} (hp : p) (hk : fault.kind = kind) :
    FailsIff p kind (.error fault : Except Fault α) := by
  refine ⟨iff_of_true ⟨fault, rfl⟩ hp, ?_⟩
  intro other h
  cases h
  exact hk

theorem ok (hp : ¬ p) (a : α) : FailsIff p kind (.ok a) := by
  refine ⟨iff_of_false ?_ hp, ?_⟩
  · rintro ⟨fault, h⟩
    cases h
  · intro fault h
    cases h

/-- What follows a step never fails. -/
theorem bind {x : Except Fault α} {f : α → Except Fault β} (h : FailsIff p kind x)
    (hf : ∀ a, ∃ b, f a = .ok b) : FailsIff p kind (x >>= f) := by
  cases x with
  | error fault => exact .error (h.iff.mp ⟨fault, rfl⟩) (h.kind fault rfl)
  | ok a =>
    have hp : ¬ p := by
      intro hp
      obtain ⟨fault, hx⟩ := h.iff.mpr hp
      cases hx
    obtain ⟨b, hb⟩ := hf a
    show FailsIff p kind (f a)
    rw [hb]
    exact .ok hp b

theorem map {x : Except Fault α} (h : FailsIff p kind x) (f : α → β) :
    FailsIff p kind (x.map f) := by
  have hx : x.map f = x >>= fun a => .ok (f a) := by cases x <;> rfl
  rw [hx]
  exact h.bind fun a => ⟨f a, rfl⟩

end FailsIff

end DocSearch.Outcome
