import DocSearch.Proofs.Index.Work

/-! # One target after the other

Work on several targets adds to the record what the work on each of them adds, in order. As long as
the targets have collections of their own, what is done for one of them is not touched by the work
on the others: `Each.split` finds the part of one target in the whole. -/

namespace DocSearch

namespace IndexWork

variable {σ τ α : Type}

/-- The work on targets in order, each done as `R` says. -/
inductive Each (R : Target → σ → IndexLog τ → α → σ → Prop) :
    List Target → σ → IndexLog τ → List (Target × α) → σ → Prop
  | nil {s : σ} : Each R [] s [] [] s
  | cons {target : Target} {rest : List Target} {s s₁ s' : σ} {entries log : IndexLog τ} {a : α}
      {answers : List (Target × α)} : R target s entries a s₁ → Each R rest s₁ log answers s' →
      Each R (target :: rest) s (entries ++ log) ((target, a) :: answers) s'

variable {w : IndexWork σ τ} {d : Deployment w.service w.settings.indexName}
  {R : Target → σ → IndexLog τ → α → σ → Prop} {targets : List Target} {s s' : σ}
  {log : IndexLog τ} {answers : List (Target × α)}

/-- Work on one target that is about nothing but the index of its collection. -/
structure Local (w : IndexWork σ τ) (d : Deployment w.service w.settings.indexName)
    (R : Target → σ → IndexLog τ → α → σ → Prop) : Prop where
  valid : ∀ {target s entries a s'}, R target s entries a s' → d.Valid s'
  drifts : ∀ {target s entries a s'}, R target s entries a s' →
    d.presence.DriftsApart (target.place w.settings) s s'
  apart : ∀ {target s entries a s'}, R target s entries a s' →
    ∀ {other}, other ≠ target.place w.settings → entries.Apart other

/-- Targets with collections of their own. -/
def Distinct (w : IndexWork σ τ) (targets : List Target) : Prop :=
  targets.Pairwise fun t u => (t.place w.settings).fullName ≠ (u.place w.settings).fullName

theorem distinct_managed (h : w.settings.movies.fullName ≠ w.settings.listings.fullName) :
    w.Distinct Target.managed := by
  simpa [Distinct, Target.managed, Target.place] using h

theorem definition_managed : ∀ t ∈ Target.managed, ∃ definition, t.definition = .ok definition := by
  intro t ht
  simp only [Target.managed, List.mem_cons, List.not_mem_nil, or_false] at ht
  rcases ht with rfl | rfl
  · exact ⟨_, rfl⟩
  · exact ⟨_, rfl⟩

theorem Each.targets_eq (h : Each R targets s log answers s') : answers.map (·.1) = targets := by
  induction h with
  | nil => rfl
  | cons _ _ ih => rw [List.map_cons, ih]

theorem Each.valid (hl : Local w d R) (hs : d.Valid s) (h : Each R targets s log answers s') :
    d.Valid s' := by
  induction h with
  | nil => exact hs
  | cons h _ ih => exact ih (hl.valid h)

theorem exists_each {work : Target → Action σ α} {twin : Target → Action (IndexLog τ × σ) α}
    (hl : Local w d R) (hs : d.Valid s)
    (hw : ∀ t ∈ targets, ∀ s, d.Valid s → ∃ entries a s',
      Records (work t) (twin t) s entries (.ok a) s' ∧ R t s entries a s') :
    ∃ log answers s', Records (forEach work targets) (forEach twin targets) s log (.ok answers) s' ∧
      Each R targets s log answers s' := by
  induction targets generalizing s with
  | nil => exact ⟨[], [], s, .pure [] s, .nil⟩
  | cons target rest ih =>
    obtain ⟨entries, a, s₁, hr, h⟩ := hw target List.mem_cons_self s hs
    obtain ⟨log, answers, s', hrs, hrest⟩ :=
      ih (hl.valid h) fun t ht => hw t (List.mem_cons_of_mem _ ht)
    refine ⟨_, _, s', ?_, .cons h hrest⟩
    refine hr.bind ?_
    rw [← List.append_nil log]
    exact hrs.bind (.pure ((target, a) :: answers) s')

/-- Targets that have collections of their own leave one another's alone. -/
theorem Each.frame (hl : Local w d R) (h : Each R targets s log answers s') {place : Namespace}
    (hp : ∀ t ∈ targets, place.fullName ≠ (t.place w.settings).fullName) :
    log.Apart place ∧ (d.presence s place).Becomes (d.presence s' place) := by
  induction h with
  | nil => exact ⟨nofun, .refl _⟩
  | @cons target rest s s₁ s' entries log a answers h _ ih =>
    have ht := hp target List.mem_cons_self
    obtain ⟨ha, hb⟩ := ih fun t h => hp t (List.mem_cons_of_mem _ h)
    refine ⟨?_, (hl.drifts h place ht).trans hb⟩
    exact (hl.apart h fun he => ht (congrArg Namespace.fullName he)).append ha

/-- The part of one target in the work on all: what is done before and after is not about it. -/
theorem Each.split (hl : Local w d R) (hd : w.Distinct targets)
    (h : Each R targets s log answers s') {target : Target} {a : α} (hm : (target, a) ∈ answers) :
    ∃ s₀ before entries after s₁, log = before ++ entries ++ after ∧ R target s₀ entries a s₁ ∧
      before.Apart (target.place w.settings) ∧ after.Apart (target.place w.settings) ∧
      (d.presence s₁ (target.place w.settings)).Becomes
        (d.presence s' (target.place w.settings)) := by
  induction h with
  | nil => cases hm
  | @cons first rest s s₁ s' entries log b answers h hrest ih =>
    obtain ⟨hfirst, hd⟩ := List.pairwise_cons.mp hd
    rcases List.mem_cons.mp hm with he | hm
    · cases he
      obtain ⟨ha, hb⟩ := hrest.frame hl hfirst
      exact ⟨s, [], entries, log, s₁, rfl, h, nofun, ha, hb⟩
    · obtain ⟨s₀, before, part, after, s₂, rfl, hr, hbefore, hafter, hb⟩ := ih hd hm
      have ht : target ∈ rest := by
        rw [← hrest.targets_eq]
        exact List.mem_map_of_mem hm
      have hne : target.place w.settings ≠ first.place w.settings :=
        fun he => hfirst target ht (congrArg Namespace.fullName he).symm
      refine ⟨s₀, entries ++ before, part, after, s₂, ?_, hr, (hl.apart h hne).append hbefore,
        hafter, hb⟩
      simp only [List.append_assoc]

end IndexWork
end DocSearch
