import DocSearch.Proofs.Datum.Plain
import DocSearch.Proofs.Query.Unfinished

/-! # Score options of every role

Options are made around a strategy, directly or by a factory, and the gathering of embedded scores
around plain options for the document outside. Whatever is made, its strategy is one that its role
admits. A document is drawn up from it unless something is not set, in the options or in those
outside; what was handed over unchecked stands in it as it is, and rendering reads it as plain data.
The document has the strategy for its one key, and what is gathered is never gathered a second
time. -/

namespace DocSearch

open Outcome

/-! ## Documents drawn up -/

/-- The document of a boost, with all that was handed over in it as it is. -/
def BoostScore.draft (b : BoostScore) : Except Fault Datum :=
  match b.source with
  | .unset => .error .noBoost
  | .value factor => .ok (.object [("value", factor)])
  | .path field =>
    if b.fallback.same (.int 0) then .ok (.object [("path", .ofValue field.render)])
    else .ok (.object [("path", .ofValue field.render), ("undefined", b.fallback)])

theorem BoostScore.render_eq_draft (b : BoostScore) : b.render = b.draft >>= Datum.value := by
  obtain ⟨source, fallback⟩ := b
  cases source with
  | unset => rfl
  | value factor => exact (Datum.value_single "value" factor).symm
  | path field =>
    unfold render draft
    by_cases standard : fallback.same (.int 0) = true
    · simp only [standard, if_true]
      exact (Datum.value_ofValue (.object [("path", field.render)])).symm
    · simp only [standard]
      exact (Datum.value_behind "undefined" "path" field.render fallback).symm

namespace Adjustment

def draft : Adjustment → Except Fault Datum
  | .rescaling (.boost b) => b.draft
  | .rescaling (.constant value) => .ok (.object [("value", value)])
  | .function expression => expression.entries.map .object

theorem render_eq_draft (a : Adjustment) : a.render = a.draft >>= Datum.value := by
  match a with
  | .rescaling (.boost b) => exact b.render_eq_draft
  | .rescaling (.constant value) => exact (Datum.value_single "value" value).symm
  | .function expression =>
    show (expression.entries >>= Datum.document).map Value.object
      = expression.entries.map Datum.object >>= Datum.value
    cases expression.entries <;> rfl

end Adjustment

/-- The document of options, under the key of their strategy. -/
def ScoreOf.draftWith {σ : Type} (key : σ → String) (draft : σ → Except Fault Datum)
    (o : ScoreOf σ) : Except Fault Datum :=
  match o.strategy with
  | none => .error (.noStrategy o.role)
  | some s => (draft s).map fun body => .object [(key s, body)]

theorem ScoreOf.renderWith_eq_draft {σ : Type} {key : σ → String} {render : σ → Except Fault Value}
    {draft : σ → Except Fault Datum} (h : ∀ s, render s = draft s >>= Datum.value)
    (o : ScoreOf σ) : o.renderWith key render = o.draftWith key draft >>= Datum.value := by
  obtain ⟨role, strategy⟩ := o
  cases strategy with
  | none => rfl
  | some s =>
    show (render s).map _ = (draft s).map _ >>= Datum.value
    rw [h]
    cases draft s with
    | error fault => rfl
    | ok body => exact (Datum.value_single (key s) body).symm

namespace EmbeddedScore

/-- The entry of the aggregate. Scores are summed by default. -/
def aggregateDraft (e : EmbeddedScore) : Entries Datum :=
  if e.aggregate = .sum then [] else [("aggregate", .str e.aggregate.name)]

def draft (e : EmbeddedScore) : Except Fault Datum :=
  match e.outerOptions with
  | none => .ok (.object e.aggregateDraft)
  | some options => (options.draftWith Adjustment.key Adjustment.draft).map fun outer =>
    .object (e.aggregateDraft ++ [("outerScope", outer)])

theorem render_eq_draft (e : EmbeddedScore) : e.render = e.draft >>= Datum.value := by
  obtain ⟨aggregate, outerScope⟩ := e
  cases outerScope with
  | none => cases aggregate <;> rfl
  | some strategy =>
    have outer := @ScoreOf.renderWith_eq_draft _ Adjustment.key _ _ Adjustment.render_eq_draft
      ⟨.plain, strategy⟩
    show (AdjustmentOptions.render ⟨.plain, strategy⟩).map _ =
      (ScoreOf.draftWith Adjustment.key Adjustment.draft ⟨.plain, strategy⟩).map _ >>= Datum.value
    rw [AdjustmentOptions.render, outer]
    cases ScoreOf.draftWith Adjustment.key Adjustment.draft ⟨.plain, strategy⟩ with
    | error fault => rfl
    | ok outer =>
      cases aggregate with
      | sum => exact (Datum.value_single "outerScope" outer).symm
      | maximum | minimum | mean =>
        exact (Datum.value_behind "outerScope" "aggregate" (.str _) outer).symm

end EmbeddedScore

def Strategy.draft : Strategy → Except Fault Datum
  | .adjustment a => a.draft
  | .embedded e => e.draft

theorem Strategy.render_eq_draft (s : Strategy) : s.render = s.draft >>= Datum.value := by
  cases s with
  | adjustment a => exact a.render_eq_draft
  | embedded e => exact e.render_eq_draft

def ScoreOptions.draft (o : ScoreOptions) : Except Fault Datum :=
  o.draftWith Strategy.key Strategy.draft

theorem ScoreOptions.render_eq_draft (o : ScoreOptions) : render o = draft o >>= Datum.value :=
  ScoreOf.renderWith_eq_draft Strategy.render_eq_draft o

/-! ## What is not set -/

/-- Options without a strategy have no document, and otherwise only what stops their strategy stops
them. -/
theorem ScoreOf.draftWith_fails_iff {σ : Type} {key : σ → String} {draft : σ → Except Fault Datum}
    {unset : σ → Prop} {o : ScoreOf σ} (h : ∀ s ∈ o.strategy, FailsIff (unset s) .state (draft s)) :
    FailsIff (o.strategy = none ∨ ∃ s, o.strategy = some s ∧ unset s) .state
      (o.draftWith key draft) := by
  obtain ⟨role, strategy⟩ := o
  cases strategy with
  | none => exact .error (.inl rfl) rfl
  | some s =>
    have unfinished : (some s = none ∨ ∃ t, some s = some t ∧ unset t) ↔ unset s := by simp
    rw [unfinished]
    exact (h s rfl).map _

namespace Adjustment

/-- An expression is an object. -/
def Expressed : Adjustment → Prop
  | .rescaling _ => True
  | .function expression => ∃ entries, expression = .object entries

theorem draft_fails_iff {a : Adjustment} (h : a.Expressed) : FailsIff a.Unset .state a.draft := by
  match a, h with
  | .rescaling (.boost ⟨.unset, _⟩), _ => exact .error ⟨_, rfl, rfl⟩ rfl
  | .rescaling (.boost ⟨.value factor, _⟩), _ => exact .ok (by simp [Unset]) _
  | .rescaling (.boost ⟨.path field, fallback⟩), _ =>
    unfold draft BoostScore.draft
    dsimp only
    split <;> exact .ok (by simp [Unset]) _
  | .rescaling (.constant value), _ => exact .ok (by simp [Unset]) _
  | .function _, ⟨entries, rfl⟩ => exact .ok (by simp [Unset]) _

end Adjustment

namespace EmbeddedScore

/-- The expression of the options outside, if there is one, is an object. -/
def Expressed (e : EmbeddedScore) : Prop := ∀ a, e.outerScope = some (some a) → a.Expressed

/-- The options outside are given, and not finished. -/
def Unset (e : EmbeddedScore) : Prop :=
  ∃ outer, e.outerOptions = some outer ∧ outer.Unfinished

theorem draft_fails_iff {e : EmbeddedScore} (h : e.Expressed) : FailsIff e.Unset .state e.draft := by
  obtain ⟨aggregate, outerScope⟩ := e
  cases outerScope with
  | none => exact .ok (by simp [Unset, outerOptions]) _
  | some strategy =>
    have unset : Unset ⟨aggregate, some strategy⟩ ↔
        AdjustmentOptions.Unfinished ⟨.plain, strategy⟩ := by simp [Unset, outerOptions]
    rw [unset]
    have outer : FailsIff (AdjustmentOptions.Unfinished ⟨.plain, strategy⟩) .state
        (ScoreOf.draftWith Adjustment.key Adjustment.draft ⟨.plain, strategy⟩) := by
      refine ScoreOf.draftWith_fails_iff ?_
      intro a ha
      exact Adjustment.draft_fails_iff (h a (congrArg some ha))
    exact outer.map _

end EmbeddedScore

namespace Strategy

def Expressed : Strategy → Prop
  | .adjustment a => a.Expressed
  | .embedded e => e.Expressed

def Unset : Strategy → Prop
  | .adjustment a => a.Unset
  | .embedded e => e.Unset

theorem draft_fails_iff {s : Strategy} (h : s.Expressed) : FailsIff s.Unset .state s.draft := by
  cases s with
  | adjustment a => exact Adjustment.draft_fails_iff h
  | embedded e => exact EmbeddedScore.draft_fails_iff h

end Strategy

/-- The options hold no strategy, or a boost with neither a value nor a path, or gather scores with
options outside of which one or the other holds. -/
def ScoreOptions.Unfinished (o : ScoreOptions) : Prop :=
  o.strategy = none ∨ ∃ s, o.strategy = some s ∧ s.Unset

/-! ## What can be made -/

/-- The strategies that a role admits, by their keys. -/
def ScoreRole.strategies : ScoreRole → List String
  | .autocomplete => ["boost", "constant"]
  | .plain => ["boost", "constant", "function"]
  | .embedded => ["boost", "constant", "function", "embedded"]

theorem Strategy.fits_iff (s : Strategy) (role : ScoreRole) :
    s.fits role = true ↔ s.key ∈ role.strategies := by
  obtain ((b | value) | expression) | e := s <;> cases role <;>
    simp [fits, asRescaling?, asAdjustment?, Adjustment.asRescaling?, key, Adjustment.key,
      Rescaling.key, ScoreRole.strategies]

/-- The strategies and options that can be made, directly or by a factory. Arguments may be anything;
a definition among them is made itself, and an expression is an object. -/
inductive Definition.Scoring : Definition → Prop
  | boost {value path fallback : Argument} {b : BoostScore} :
      BoostScore.of value path fallback = .ok b → Scoring (.strategy (.boost b))
  | constant (value : Argument) : Scoring (.strategy (.constant value.datum))
  | function (entries : Entries Argument) :
      Scoring (.strategy (.function (Argument.object entries).datum))
  | embedded {aggregate outerScope : Argument} {e : EmbeddedScore} :
      (∀ d, outerScope = .made d → Scoring d) → EmbeddedScore.of aggregate outerScope = .ok e →
      Scoring (.strategy (.embedded e))
  | options {role : ScoreRole} {strategy : Argument} {o : ScoreOptions} :
      (∀ d, strategy = .made d → Scoring d) → ScoreOptions.of role strategy = .ok o →
      Scoring (.score o)
  | boostOptions {role : ScoreRole} {value : Argument} {o : ScoreOptions} :
      ScoreOptions.boost role value = .ok o → Scoring (.score o)
  | boostPathOptions {role : ScoreRole} {path fallback : Argument} {o : ScoreOptions} :
      ScoreOptions.boostPath role path fallback = .ok o → Scoring (.score o)
  | constantOptions {role : ScoreRole} {value : Argument} {o : ScoreOptions} :
      ScoreOptions.constant role value = .ok o → Scoring (.score o)
  | functionOptions {role : ScoreRole} {entries : Entries Argument} {o : ScoreOptions} :
      ScoreOptions.function role (.object entries) = .ok o → Scoring (.score o)
  | embeddedOptions {aggregate outerScope : Argument} {o : ScoreOptions} :
      (∀ d, outerScope = .made d → Scoring d) →
      ScoreOptions.embedded aggregate outerScope = .ok o → Scoring (.score o)

/-- The strategy of options is one for their role, and expressions are objects. -/
def ScoreOptions.Fitted (o : ScoreOptions) : Prop :=
  ∀ s ∈ o.strategy, s.key ∈ o.role.strategies ∧ s.Expressed

theorem ScoreOptions.fitted_ofStrategy {role : ScoreRole} {s : Strategy} {o : ScoreOptions}
    (h : ofStrategy role s = .ok o) (hs : s.Expressed) : o.Fitted := by
  unfold ofStrategy at h
  split at h
  · rename_i fits
    cases h
    intro t ht
    cases ht
    exact ⟨(s.fits_iff role).mp fits, hs⟩
  · cases h

theorem ScoreOptions.fitted_of {role : ScoreRole} {a : Argument} {o : ScoreOptions}
    (ha : ∀ s, a = .made (.strategy s) → s.Expressed) (h : ScoreOptions.of role a = .ok o) :
    o.Fitted := by
  unfold ScoreOptions.of at h
  split at h
  · cases h
    intro s hs
    cases hs
  · exact fitted_ofStrategy h (ha _ rfl)
  · cases h

/-- What is accepted for the options outside is of the plain role. -/
theorem EmbeddedScore.outerScopeOf_eq {outerScope : Argument} {a : Adjustment}
    (h : outerScopeOf outerScope = .ok (some (some a))) :
    outerScope = .made (.score ⟨.plain, some (.adjustment a)⟩) := by
  unfold outerScopeOf at h
  split at h <;> cases h
  rfl

theorem EmbeddedScore.expressed_of {aggregate outerScope : Argument} {e : EmbeddedScore}
    (ho : ∀ o, outerScope = .made (.score o) → o.Fitted)
    (h : EmbeddedScore.of aggregate outerScope = .ok e) : e.Expressed := by
  obtain ⟨name, _, h⟩ := bind_eq_ok h
  obtain ⟨outer, houter, h⟩ := bind_eq_ok h
  cases h
  intro a ha
  subst ha
  exact (ho _ (outerScopeOf_eq houter) _ rfl).2

def Definition.Fitted : Definition → Prop
  | .strategy s => s.Expressed
  | .score o => o.Fitted
  | _ => True

theorem Definition.Scoring.fitted {d : Definition} (h : d.Scoring) : d.Fitted := by
  induction h with
  | boost => exact trivial
  | constant => exact trivial
  | function entries => exact ⟨_, rfl⟩
  | embedded _ h ih => exact EmbeddedScore.expressed_of (fun o ho => ih (.score o) ho) h
  | options _ h ih => exact ScoreOptions.fitted_of (fun s hs => ih (.strategy s) hs) h
  | boostOptions h =>
    obtain ⟨factor, _, h⟩ := bind_eq_ok h
    exact ScoreOptions.fitted_ofStrategy h trivial
  | boostPathOptions h =>
    obtain ⟨field, _, h⟩ := bind_eq_ok h
    exact ScoreOptions.fitted_ofStrategy h trivial
  | constantOptions h =>
    obtain ⟨value, _, h⟩ := bind_eq_ok h
    exact ScoreOptions.fitted_ofStrategy h trivial
  | functionOptions h =>
    obtain ⟨expression, he, h⟩ := bind_eq_ok h
    cases he
    exact ScoreOptions.fitted_ofStrategy h ⟨_, rfl⟩
  | embeddedOptions _ h ih =>
    obtain ⟨e, he, h⟩ := bind_eq_ok h
    exact ScoreOptions.fitted_ofStrategy h
      (EmbeddedScore.expressed_of (fun o ho => ih (.score o) ho) he)

/-! ## What is drawn up -/

/-- The form of the document of options in a role: one key, that of a strategy for the role. What is
under `embedded` has an aggregate at most, never the standard one, and behind it the document of
options outside, which do not gather anything themselves. -/
inductive RoleForm : ScoreRole → Datum → Prop
  | direct {role : ScoreRole} {key : String} (body : Datum) : key ∈ role.strategies →
      key ≠ "embedded" → RoleForm role (.object [(key, body)])
  | gathered {aggregate outer : Entries Datum} :
      (aggregate = [] ∨
        ∃ name ∈ ["maximum", "minimum", "mean"], aggregate = [("aggregate", .str name)]) →
      (outer = [] ∨ ∃ key ∈ ["boost", "constant", "function"], ∃ body,
        outer = [("outerScope", .object [(key, body)])]) →
      RoleForm .embedded (.object [("embedded", .object (aggregate ++ outer))])

theorem ScoreOf.draftWith_eq_ok {σ : Type} {key : σ → String} {draft : σ → Except Fault Datum}
    {o : ScoreOf σ} {d : Datum} (h : o.draftWith key draft = .ok d) :
    ∃ s ∈ o.strategy, ∃ body, draft s = .ok body ∧ d = .object [(key s, body)] := by
  obtain ⟨role, strategy⟩ := o
  cases strategy with
  | none => cases h
  | some s =>
    obtain ⟨body, hb, rfl⟩ := map_eq_ok h
    exact ⟨s, rfl, body, hb, rfl⟩

theorem Adjustment.key_mem (a : Adjustment) : a.key ∈ ["boost", "constant", "function"] := by
  obtain (b | value) | expression := a <;> simp [key, Rescaling.key]

theorem EmbeddedScore.roleForm_draft {e : EmbeddedScore} {body : Datum} (h : e.draft = .ok body) :
    RoleForm .embedded (.object [("embedded", body)]) := by
  obtain ⟨aggregate, outerScope⟩ := e
  have aggregated : aggregateDraft ⟨aggregate, outerScope⟩ = [] ∨
      ∃ name ∈ ["maximum", "minimum", "mean"],
        aggregateDraft ⟨aggregate, outerScope⟩ = [("aggregate", .str name)] := by
    cases aggregate <;> simp [aggregateDraft, Aggregate.name]
  cases outerScope with
  | none =>
    cases h
    have form := RoleForm.gathered aggregated (.inl rfl)
    rw [List.append_nil] at form
    exact form
  | some strategy =>
    obtain ⟨outer, ho, rfl⟩ := map_eq_ok h
    obtain ⟨a, -, adjusted, -, rfl⟩ := ScoreOf.draftWith_eq_ok ho
    exact .gathered aggregated (.inr ⟨_, a.key_mem, adjusted, rfl⟩)

theorem Strategy.roleForm_draft {s : Strategy} {role : ScoreRole} {body : Datum}
    (hs : s.key ∈ role.strategies) (h : s.draft = .ok body) :
    RoleForm role (.object [(s.key, body)]) := by
  cases s with
  | adjustment a =>
    refine .direct body hs ?_
    have known := a.key_mem
    intro embedded
    rw [show a.key = "embedded" from embedded] at known
    simp at known
  | embedded e =>
    have role_eq : role = .embedded := by cases role <;> simp_all [key, ScoreRole.strategies]
    subst role_eq
    exact e.roleForm_draft h

namespace ScoreOptions

/-- Options hold a strategy that their role admits, or none. Something not set, in them or in those
outside, is what makes their rendering fail as a fault of state. If all is set, a document is drawn
up, with the strategy for its one key and in the form of the role. What is rendered is what is drawn
up; it can only be that something handed over is not plain data. -/
structure Renders (o : ScoreOptions) : Prop where
  admitted : ∀ s ∈ o.strategy, s.key ∈ o.role.strategies
  unfinished : (∃ fault, render o = .error fault ∧ fault.kind = .state) ↔ o.Unfinished
  finished : ¬ o.Unfinished → ∃ s ∈ o.strategy, ∃ body,
    draft o = .ok (.object [(s.key, body)]) ∧ RoleForm o.role (.object [(s.key, body)])
  rendered : ∀ v, render o = .ok v ↔ draft o = .ok (.ofValue v)

theorem kind_state_iff {o : ScoreOptions} (h : FailsIff o.Unfinished .state (draft o)) :
    (∃ fault, render o = .error fault ∧ fault.kind = .state) ↔ o.Unfinished := by
  rw [render_eq_draft]
  constructor
  · intro hf
    obtain ⟨fault, hr, hk⟩ := hf
    rcases bind_eq_error hr with hd | ⟨d, -, hv⟩
    · exact h.iff.mp ⟨fault, hd⟩
    · rw [d.kind_value fault hv] at hk
      cases hk
  · intro hu
    obtain ⟨fault, hd⟩ := h.iff.mpr hu
    rw [hd]
    exact ⟨fault, rfl, h.kind fault hd⟩

theorem render_eq_ok_iff (o : ScoreOptions) (v : Value) :
    render o = .ok v ↔ draft o = .ok (.ofValue v) := by
  rw [render_eq_draft]
  constructor
  · intro h
    obtain ⟨d, hd, hv⟩ := bind_eq_ok h
    rw [hd, Datum.eq_ofValue hv]
  · intro h
    rw [h]
    exact Datum.value_ofValue v

theorem renders_unless_unfinished {o : ScoreOptions} (h : Definition.Scoring (.score o)) :
    o.Renders := by
  have fitted : o.Fitted := h.fitted
  have fails : FailsIff o.Unfinished .state (draft o) :=
    ScoreOf.draftWith_fails_iff fun s hs => Strategy.draft_fails_iff (fitted s hs).2
  refine ⟨fun s hs => (fitted s hs).1, kind_state_iff fails, ?_, render_eq_ok_iff o⟩
  intro set
  cases hd : draft o with
  | error fault => exact absurd (fails.iff.mp ⟨fault, hd⟩) set
  | ok d =>
    obtain ⟨s, hs, body, hb, rfl⟩ := ScoreOf.draftWith_eq_ok hd
    exact ⟨s, hs, body, rfl, Strategy.roleForm_draft (fitted s hs).1 hb⟩

/-- Means of embedded scores, adjusted for the document outside. -/
def meansUnder (a : Adjustment) : ScoreOptions :=
  ⟨.embedded, some (.embedded ⟨.mean, some (some a)⟩)⟩

theorem meansUnder_scoring {a : Adjustment}
    (h : Definition.Scoring (.strategy (.adjustment a))) :
    Definition.Scoring (.score (meansUnder a)) := by
  have outside : Definition.Scoring (.score ⟨.plain, some (.adjustment a)⟩) := by
    refine @Definition.Scoring.options .plain (.made (.strategy (.adjustment a))) _ ?_ rfl
    intro d hd
    cases hd
    exact h
  refine @Definition.Scoring.embeddedOptions (.str "mean")
    (.made (.score ⟨.plain, some (.adjustment a)⟩)) _ ?_ rfl
  intro d hd
  cases hd
  exact outside

/-- A boost outside that takes its factor from nowhere fails the rendering of the means; a wish
outside for the relevance does not. -/
theorem means_render_unless_unset :
    (∃ o, Definition.Scoring (.score o) ∧ o = meansUnder (.rescaling (.boost ⟨.unset, .int 0⟩)) ∧
      ∃ fault, render o = .error fault ∧ fault.kind = .state) ∧
    ∃ o, Definition.Scoring (.score o) ∧
      o = meansUnder (.function (.object [("score", .str "relevance")])) ∧
      ∃ v, render o = .ok v ∧ RoleForm .embedded (.ofValue v) := by
  have unset := meansUnder_scoring (@Definition.Scoring.boost .null .null (.int 0) _ rfl)
  have set := meansUnder_scoring (.function [("score", .str "relevance")])
  constructor
  · refine ⟨_, unset, rfl, (renders_unless_unfinished unset).unfinished.mpr ?_⟩
    exact .inr ⟨_, rfl, _, rfl, .inr ⟨_, rfl, _, rfl, rfl⟩⟩
  · have laws := renders_unless_unfinished set
    obtain ⟨s, -, body, drawn, form⟩ := laws.finished (by
      simp [Unfinished, meansUnder, Strategy.Unset, EmbeddedScore.Unset, EmbeddedScore.outerOptions,
        AdjustmentOptions.Unfinished, Adjustment.Unset])
    have plain := (laws.rendered _).mp rfl
    rw [← Except.ok.inj (plain.symm.trans drawn)] at form
    exact ⟨_, set, rfl, _, rfl, form⟩

end ScoreOptions
end DocSearch
