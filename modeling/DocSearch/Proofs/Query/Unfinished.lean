import DocSearch.Proofs.Query.Lossless
import DocSearch.Proofs.Query.Typed

/-! # Scores that are not finished

Score options may be made without a strategy, and a boost without a value or a path. Nothing reports
either when it is made. A typed clause fails to render if and only if its score is such, whatever
else it holds. -/

namespace DocSearch

open Outcome

/-- A boost with neither a value nor a path. -/
def Adjustment.Unset (a : Adjustment) : Prop :=
  ∃ b, a = .rescaling (.boost b) ∧ b.source = .unset

/-- The options hold no strategy, or a boost with neither a value nor a path. -/
def AdjustmentOptions.Unfinished (o : AdjustmentOptions) : Prop :=
  o.strategy = none ∨ ∃ a, o.strategy = some a ∧ a.Unset

/-- The score of a clause is set, and not finished. -/
def LeafClause.Unfinished (c : LeafClause) : Prop := ∃ o, c.score? = some o ∧ o.Unfinished

/-! ## Scores -/

theorem Adjustment.Typed.render_fails_iff {a : Adjustment} (h : a.Typed) :
    FailsIff a.Unset .state a.render := by
  cases h with
  | unset fallback => exact .error ⟨_, rfl, rfl⟩ rfl
  | factor factor fallback =>
    rw [Adjustment.render, Rescaling.render, BoostScore.render_value]
    refine .ok ?_ _
    rintro ⟨b, hb, hs⟩
    cases hb
    cases hs
  | field path fallback =>
    rw [Adjustment.render, Rescaling.render, BoostScore.render_path]
    refine .ok ?_ _
    rintro ⟨b, hb, hs⟩
    cases hb
    cases hs
  | constant value =>
    obtain ⟨v, hv⟩ := Rescaling.faithful_constant.ok ⟨value, rfl⟩
    rw [Adjustment.render, hv]
    refine .ok ?_ _
    rintro ⟨b, hb, -⟩
    cases hb
  | function expression =>
    obtain ⟨v, hv⟩ := Adjustment.faithful_function.ok ⟨expression, rfl⟩
    rw [hv]
    refine .ok ?_ _
    rintro ⟨b, hb, -⟩
    cases hb

theorem AdjustmentOptions.Typed.render_fails_iff {o : AdjustmentOptions} (h : o.Typed) :
    FailsIff o.Unfinished .state (AdjustmentOptions.render o) := by
  obtain ⟨role, strategy⟩ := o
  cases strategy with
  | none => exact .error (.inl rfl) rfl
  | some a =>
    have unfinished : AdjustmentOptions.Unfinished ⟨role, some a⟩ ↔ a.Unset := by
      constructor
      · rintro (hn | ⟨a', ha, hu⟩)
        · cases hn
        · cases ha
          exact hu
      · intro hu
        exact .inr ⟨a, rfl, hu⟩
    rw [unfinished]
    exact (Adjustment.Typed.render_fails_iff (h a rfl)).map _

namespace LeafClause

variable {c : LeafClause}

theorem renderScore_eq (c : LeafClause) :
    c.renderScore = c.score?.map AdjustmentOptions.render := by
  cases c with
  | text c => rfl
  | phrase c => rfl
  | geoWithin c => rfl
  | autocomplete c =>
    obtain ⟨query, path, order, fuzzy, score⟩ := c
    match score with
    | none => rfl
    | some ⟨role, none⟩ => rfl
    | some ⟨role, some r⟩ => rfl

theorem Typed.score_fails_iff (h : c.Typed) :
    FailsIff c.Unfinished .state (entryOf "score" c.renderScore) := by
  rw [renderScore_eq, Unfinished]
  cases hs : c.score? with
  | none =>
    refine .ok ?_ _
    rintro ⟨o, ho, -⟩
    cases ho
  | some o =>
    have unfinished : (∃ p, some o = some p ∧ p.Unfinished) ↔ o.Unfinished := by simp
    rw [unfinished]
    exact (AdjustmentOptions.Typed.render_fails_iff (h.score o hs)).map _

/-- The settings of the operator never fail. -/
theorem Typed.settings_ok (h : c.Typed) : ∃ d, c.settings = .ok d := by
  have fuzzy (slot : Option Datum) (hs : ∀ d ∈ slot, ∃ o : FuzzyOptions, d = o.datum) :
      ∃ d, entryOf "fuzzy" (slot.map Datum.render) = .ok d := by
    cases slot with
    | none => exact ⟨[], rfl⟩
    | some d =>
      obtain ⟨o, rfl⟩ := hs d rfl
      exact ⟨_, rfl⟩
  cases c with
  | text c =>
    obtain ⟨d, hd⟩ := fuzzy (c.matching.bind Matching.options?) h.fuzzy
    exact ⟨_, by rw [settings_text, hd]; rfl⟩
  | phrase c => exact ⟨_, rfl⟩
  | autocomplete c =>
    obtain ⟨d, hd⟩ := fuzzy c.fuzzy h.fuzzy
    exact ⟨_, by rw [settings_autocomplete, hd]; rfl⟩
  | geoWithin c =>
    obtain ⟨v, hv⟩ := Shape.exists_render (h.region c rfl)
    exact ⟨_, by rw [settings, hv]; rfl⟩

/-- The score is all that can fail. -/
theorem Typed.render_fails_iff (h : c.Typed) : FailsIff c.Unfinished .state c.render := by
  refine h.score_fails_iff.bind ?_
  intro score
  obtain ⟨d, hd⟩ := h.settings_ok
  exact ⟨_, by rw [hd]; rfl⟩

end LeafClause
end DocSearch
