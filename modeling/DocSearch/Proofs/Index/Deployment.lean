import DocSearch.Index.Maintenance

/-! # Deployments that delete in their own time

What index work relies on of the service it talks to. No call but a sleep fails; an index that is
dropped may go on being listed, for any time or for ever, and may vanish whenever the service is
called or time passes. Once gone it stays gone until it is created. How long a deletion takes, and
by what it is measured, is left open. -/

namespace DocSearch

/-- How an index stands. -/
inductive Presence where
  | gone
  | standing
  /-- Dropped, and still listed. -/
  | leaving
  deriving DecidableEq

namespace Presence

/-- What may become of an index that nobody works on. -/
def Becomes (p q : Presence) : Prop := q = p ∨ (p = .leaving ∧ q = .gone)

/-- How an index stands once every deletion under way is completed. -/
def settled : Presence → Presence
  | .leaving => .gone
  | p => p

theorem Becomes.refl (p : Presence) : p.Becomes p := .inl rfl

theorem Becomes.trans {p q r : Presence} (h : p.Becomes q) (h' : q.Becomes r) : p.Becomes r := by
  rcases h with rfl | ⟨rfl, rfl⟩
  · exact h'
  · rcases h' with rfl | ⟨h', -⟩
    · exact .inr ⟨rfl, rfl⟩
    · cases h'

theorem Becomes.of_gone {p : Presence} (h : Presence.gone.Becomes p) : p = .gone := by
  rcases h with h | ⟨h, -⟩
  · exact h
  · cases h

theorem Becomes.standing_iff {p q : Presence} (h : p.Becomes q) :
    q = .standing ↔ p = .standing := by
  rcases h with rfl | ⟨rfl, rfl⟩
  · exact .rfl
  · simp

theorem settled_ne_gone_iff {p : Presence} : p.settled ≠ .gone ↔ p = .standing := by
  cases p <;> simp [settled]

end Presence

/-- How the index of each collection stands in a state. -/
abbrev IndexView (σ : Type) := σ → Namespace → Presence

namespace IndexView

variable {σ : Type} {v : IndexView σ} {s t u : σ}

/-- Nobody works on the indexes between two states. -/
def Drifts (v : IndexView σ) (s t : σ) : Prop := ∀ place, (v s place).Becomes (v t place)

/-- Nobody works on the indexes of other collections between two states. -/
def DriftsApart (v : IndexView σ) (place : Namespace) (s t : σ) : Prop :=
  ∀ other, other.fullName ≠ place.fullName → (v s other).Becomes (v t other)

theorem Drifts.refl (s : σ) : v.Drifts s s := fun _ => .refl _

theorem Drifts.trans (h : v.Drifts s t) (h' : v.Drifts t u) : v.Drifts s u :=
  fun place => (h place).trans (h' place)

theorem Drifts.apart (h : v.Drifts s t) (place : Namespace) : v.DriftsApart place s t :=
  fun other _ => h other

theorem DriftsApart.trans {place : Namespace} (h : v.DriftsApart place s t)
    (h' : v.DriftsApart place t u) : v.DriftsApart place s u :=
  fun other ho => (h other ho).trans (h' other ho)

end IndexView

/-- A service whose indexes of one name stand as described. -/
structure Deployment {σ τ : Type} (service : IndexService σ τ) (name : String) where
  /-- The states that the service can be in. -/
  Valid : σ → Prop
  presence : IndexView σ
  list : ∀ {s}, Valid s → ∀ place, ∃ found s', (service.list place name).run s = (.ok found, s') ∧
    Valid s' ∧ presence.Drifts s s' ∧ (found = [] ↔ presence s' place = .gone)
  create : ∀ {s}, Valid s → ∀ place definition, presence s place = .gone →
    ∃ s', (service.create place name definition).run s = (.ok (), s') ∧
      Valid s' ∧ presence.DriftsApart place s s' ∧ presence s' place = .standing
  drop : ∀ {s}, Valid s → ∀ place, presence s place ≠ .gone →
    ∃ s', (service.drop place name).run s = (.ok (), s') ∧
      Valid s' ∧ presence.DriftsApart place s s' ∧ presence s' place ≠ .standing
  sleep : ∀ {s}, Valid s → ∀ span, Valid ((service.sleep span).run s).2 ∧
    presence.Drifts s ((service.sleep span).run s).2

/-- Time advances by sleeping, by the span that is slept, and by nothing else. -/
structure Deployment.Timed {σ τ : Type} [Clock τ] {service : IndexService σ τ} {name : String}
    (d : Deployment service name) : Prop where
  list : ∀ {s}, d.Valid s → ∀ place, service.now ((service.list place name).run s).2 = service.now s
  create : ∀ {s}, d.Valid s → ∀ place definition,
    service.now ((service.create place name definition).run s).2 = service.now s
  drop : ∀ {s}, d.Valid s → ∀ place, service.now ((service.drop place name).run s).2 = service.now s
  sleep : ∀ {s}, d.Valid s → ∀ span later, Clock.add (service.now s) span = .ok later →
    ((service.sleep span).run s).1 = .ok () ∧ service.now ((service.sleep span).run s).2 = later

end DocSearch
