import DocSearch.Fault

/-! # Actions

An action works on a state and gives a result or a fault. The state is changed either way: what was
done before a fault stays done. Actions are chained by `do`; a fault ends the chain. -/

namespace DocSearch

/-- An action on a state that may fail. -/
def Action (σ α : Type) := σ → Except Fault α × σ

namespace Action

variable {σ α β : Type}

/-- The action run on a state. -/
def run (x : Action σ α) (s : σ) : Except Fault α × σ := x s

instance : Monad (Action σ) where
  pure a := fun s => (.ok a, s)
  bind x f := fun s =>
    match x s with
    | (.ok a, s) => f a s
    | (.error fault, s) => (.error fault, s)

@[simp] theorem run_pure (a : α) (s : σ) : (pure a : Action σ α).run s = (.ok a, s) := rfl

theorem run_bind (x : Action σ α) (f : α → Action σ β) (s : σ) :
    (x >>= f).run s =
      match x.run s with
      | (.ok a, s) => (f a).run s
      | (.error fault, s) => (.error fault, s) := rfl

theorem run_bind_of_ok {x : Action σ α} {s s' : σ} {a : α} (h : x.run s = (.ok a, s'))
    (f : α → Action σ β) : (x >>= f).run s = (f a).run s' := by
  rw [run_bind, h]

theorem run_bind_of_error {x : Action σ α} {s s' : σ} {fault : Fault}
    (h : x.run s = (.error fault, s')) (f : α → Action σ β) :
    (x >>= f).run s = (.error fault, s') := by
  rw [run_bind, h]

/-- The action that fails and changes nothing. -/
def fail (fault : Fault) : Action σ α := fun s => (.error fault, s)

@[simp] theorem run_fail (fault : Fault) (s : σ) :
    (fail fault : Action σ α).run s = (.error fault, s) := rfl

/-- A result computed without the state. -/
def lift (x : Except Fault α) : Action σ α := fun s => (x, s)

@[simp] theorem run_lift (x : Except Fault α) (s : σ) : (lift x).run s = (x, s) := rfl

/-- The action that changes the state and cannot fail. -/
def modify (f : σ → σ) : Action σ Unit := fun s => (.ok (), f s)

@[simp] theorem run_modify (f : σ → σ) (s : σ) : (modify f).run s = (.ok (), f s) := rfl

/-- A look at the state. -/
def look (f : σ → α) : Action σ α := fun s => (.ok (f s), s)

@[simp] theorem run_look (f : σ → α) (s : σ) : (look f).run s = (.ok (f s), s) := rfl

/-- The outcome of an action as a result, so that the chain goes on after a fault. -/
def attempt (x : Action σ α) : Action σ (Except Fault α) := fun s =>
  let (outcome, s) := x s
  (.ok outcome, s)

@[simp] theorem run_attempt (x : Action σ α) (s : σ) :
    x.attempt.run s = (.ok (x.run s).1, (x.run s).2) := rfl

/-- An action followed by a change of the state that always happens, also after a fault. -/
def ensuring (x : Action σ α) (last : σ → σ) : Action σ α := fun s =>
  let (outcome, s) := x s
  (outcome, last s)

@[simp] theorem run_ensuring (x : Action σ α) (last : σ → σ) (s : σ) :
    (x.ensuring last).run s = ((x.run s).1, last (x.run s).2) := rfl

/-- An action on the second of two states. -/
def onSecond {ρ : Type} (x : Action σ α) : Action (ρ × σ) α := fun (r, s) =>
  let (outcome, s) := x s
  (outcome, r, s)

@[simp] theorem run_onSecond {ρ : Type} (x : Action σ α) (r : ρ) (s : σ) :
    x.onSecond.run (r, s) = ((x.run s).1, r, (x.run s).2) := rfl

end Action
end DocSearch
