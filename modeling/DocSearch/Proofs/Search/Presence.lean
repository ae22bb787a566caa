import DocSearch.Proofs.Search.Assembly
import DocSearch.Proofs.Search.Sessions

/-! # Which stages a search has, and which of them are empty

The search stage always holds the clause and the limit stage a count, so only a projection stage can
have nothing in it. It is there for every projection that is chosen, also for one that asks for
nothing at all; whether its document is empty is told by the projection's parts and by whether
highlights are asked for. -/

namespace DocSearch

/-! ## Projections that ask for nothing -/

theorem Entries.set_ne_nil {α : Type} (key : String) (value : α) (d : Entries α) :
    d.set key value ≠ [] := by
  cases d with
  | nil => simp [Entries.set]
  | cons entry rest =>
    unfold Entries.set
    split <;> simp

theorem Entries.merge_eq_nil {α : Type} {d update : Entries α} :
    d.merge update = [] ↔ d = [] ∧ update = [] := by
  induction update generalizing d with
  | nil => simp [Entries.merge]
  | cons entry rest ih =>
    have step : d.merge (entry :: rest) = (d.set entry.1 entry.2).merge rest := rfl
    rw [step, ih]
    simp [Entries.set_ne_nil]

theorem Datum.document_eq_nil {entries : Entries Datum} {d : Document}
    (h : Datum.document entries = .ok d) : d = [] ↔ entries = [] := by
  cases entries with
  | nil =>
    cases h
    simp
  | cons entry rest =>
    obtain ⟨v, -, h⟩ := Outcome.bind_eq_ok h
    obtain ⟨others, -, h⟩ := Outcome.bind_eq_ok h
    cases h
    simp

namespace Projection

/-- A projection, or none, as it is handed over. -/
def handed : Option Projection → Argument
  | none => .null
  | some p => .made (.projection p)

/-- No field is included but the type tag, no expression is added and no meta field is flagged. -/
structure Blank (p : Projection) : Prop where
  fields : ∀ entry ∈ p.includedFields, entry.1 = typeTag
  expressions : p.extraExpressions = []
  searchHighlights : p.searchHighlights.truthy = false
  textScore : p.textScore.truthy = false
  searchScore : p.searchScore.truthy = false

variable {p : Projection}

theorem erase_includedEntries_eq_nil : Entries.erase typeTag p.includedEntries = []
    ↔ ∀ entry ∈ p.includedFields, entry.1 = typeTag := by
  unfold Entries.erase includedEntries
  simp only [List.filter_map, List.map_eq_nil_iff, List.filter_eq_nil_iff, Function.comp_apply,
    bne_iff_ne, ne_eq, Decidable.not_not]

theorem metaEntries_eq_nil : p.metaEntries = [] ↔ p.searchHighlights.truthy = false
    ∧ p.textScore.truthy = false ∧ p.searchScore.truthy = false := by
  simp [metaEntries]

theorem entries_eq_nil : p.entries = [] ↔ p.Blank := by
  unfold entries
  rw [Entries.merge_eq_nil, Entries.merge_eq_nil, erase_includedEntries_eq_nil, metaEntries_eq_nil]
  constructor
  · rintro ⟨⟨hfields, hexpressions⟩, hhighlights, htext, hsearch⟩
    exact ⟨hfields, hexpressions, hhighlights, htext, hsearch⟩
  · rintro ⟨hfields, hexpressions, hhighlights, htext, hsearch⟩
    exact ⟨⟨hfields, hexpressions⟩, hhighlights, htext, hsearch⟩

theorem render_eq_nil {d : Document} (h : p.render = .ok d) : d = [] ↔ p.Blank := by
  rw [← entries_eq_nil]
  exact Datum.document_eq_nil h

end Projection

/-! ## Stages -/

namespace Pipeline

variable {clause highlight limit : Argument} {projection : Option Document} {index : Value}
  {stages : List Document}

theorem isSome_of_mapM_render {given : Option Argument} {options : Option Value}
    (h : given.mapM Argument.render = .ok options) : options.isSome = given.isSome := by
  cases given with
  | none =>
    cases h
    rfl
  | some a =>
    rw [Outcome.mapM_some] at h
    obtain ⟨v, -, rfl⟩ := Outcome.map_eq_ok h
    rfl

/-- What may stand in a pipeline that is built. -/
theorem mem_build (h : build clause (projection.map fun d => .ofValue (.object d)) highlight index
    limit = .ok stages) :
    ∃ rendered options, ∃ n : Option Int, Clause.documentOf clause = .ok rendered ∧
      ∀ stage, stage ∈ stages ↔ stage = [(searchKey, .object (searchBody rendered options index))] ∨
        (∃ k, n = some k ∧ stage = [(limitKey, .int k)]) ∨
        ∃ d, projection = some d ∧
          stage = [(projectKey, .object (projectBody d highlight.ifGiven.isSome))] := by
  obtain ⟨n, -, h⟩ := Outcome.bind_eq_ok h
  rw [mapM_toDocument_ofValue] at h
  obtain ⟨taken, htaken, h⟩ := Outcome.bind_eq_ok h
  obtain ⟨rendered, hrendered, h⟩ := Outcome.bind_eq_ok h
  obtain ⟨options, hoptions, h⟩ := Outcome.bind_eq_ok h
  cases htaken
  cases h
  refine ⟨rendered, options, n, hrendered, fun stage => ?_⟩
  rw [isSome_of_mapM_render hoptions]
  cases n <;> cases projection <;> simp

theorem searchBody_ne_nil {rendered : Document} {options : Option Value}
    (h : Clause.documentOf clause = .ok rendered) : searchBody rendered options index ≠ [] := by
  obtain ⟨operator, body, rfl, -⟩ := Clause.documentOf_eq_single h
  simp [searchBody]

theorem projectBody_eq_nil {d : Document} {highlighted : Bool} :
    projectBody d highlighted = [] ↔ d = [] ∧ highlighted = false := by
  unfold projectBody
  split
  · next h =>
    have highlighted : highlighted = true := (Bool.and_eq_true_iff.mp h).1
    simp [highlighted]
  · next h =>
    cases d with
    | nil => simpa [Entries.contains] using h
    | cons entry rest => simp

/-- Which stages there are and which of them are empty, for a projection that is chosen or none. -/
structure Presence (chosen : Option Projection) (highlight : Argument) (stages : List Document) :
    Prop where
  single : ∀ stage ∈ stages, ∃ key v, stage = [(key, v)]
  filled : ∀ key d, [(key, .object d)] ∈ stages → key ≠ "$project" → d ≠ []
  project_iff : (∃ v, [("$project", v)] ∈ stages) ↔ ∃ p, chosen = some p
  project : ∀ v, [("$project", v)] ∈ stages → ∃ p d, chosen = some p ∧ v = .object d ∧
    (d = [] ↔ p.Blank ∧ highlight = .null)

theorem presence_of_build {chosen : Option Projection}
    (hchosen : chosen.mapM Projection.render = .ok projection)
    (h : build clause (projection.map fun d => .ofValue (.object d)) highlight index limit
      = .ok stages) : Presence chosen highlight stages := by
  obtain ⟨rendered, options, n, hrendered, mem⟩ := mem_build h
  have given : highlight.ifGiven.isSome = false ↔ highlight = .null := by
    cases highlight <;> simp [Argument.ifGiven]
  -- A projection stage is the last of the three, by its key.
  have project : ∀ v, [("$project", v)] ∈ stages ↔ ∃ d, projection = some d ∧
      v = .object (projectBody d highlight.ifGiven.isSome) := by
    intro v
    rw [mem]
    simp [searchKey, limitKey, projectKey]
  have rendering : ∀ d, projection = some d → ∃ p, chosen = some p ∧ p.render = .ok d := by
    rintro d rfl
    cases chosen with
    | none => cases hchosen
    | some p =>
      rw [Outcome.mapM_some] at hchosen
      obtain ⟨d', hd, he⟩ := Outcome.map_eq_ok hchosen
      cases he
      exact ⟨p, rfl, hd⟩
  constructor
  case single =>
    intro stage hm
    rcases (mem stage).mp hm with rfl | ⟨k, -, rfl⟩ | ⟨d, -, rfl⟩ <;> exact ⟨_, _, rfl⟩
  case filled =>
    intro key d hm hkey
    rcases (mem _).mp hm with he | ⟨k, -, he⟩ | ⟨d, -, he⟩
    · cases he
      exact searchBody_ne_nil hrendered
    · cases he
    · cases he
      exact absurd rfl hkey
  case project_iff =>
    constructor
    · rintro ⟨v, hv⟩
      obtain ⟨d, hd, -⟩ := (project v).mp hv
      obtain ⟨p, hp, -⟩ := rendering d hd
      exact ⟨p, hp⟩
    · rintro ⟨p, rfl⟩
      rw [Outcome.mapM_some] at hchosen
      obtain ⟨d, -, hd⟩ := Outcome.map_eq_ok hchosen
      exact ⟨_, (project _).mpr ⟨d, hd.symm, rfl⟩⟩
  case project =>
    intro v hv
    obtain ⟨d, hd, rfl⟩ := (project v).mp hv
    obtain ⟨p, hp, hrender⟩ := rendering d hd
    refine ⟨p, _, hp, rfl, ?_⟩
    rw [projectBody_eq_nil, Projection.render_eq_nil hrender, given]

end Pipeline

namespace Searcher

variable {ρ : Type} {c : Searcher ρ} {defaults : Defaults}

/-- The projection of a search: the one that is handed over, else the default. -/
def chosen (c : Searcher ρ) (projection : Option Projection) (defaults : Defaults) :
    Except Fault (Option Projection) :=
  match projection with
  | some p => .ok (some p)
  | none => (defaults.resolve c.type.key).1

theorem projectionFor_handed (projection : Option Projection) {document : Option Value}
    (h : (defaults.projectionFor c.type.key (Projection.handed projection)).1 = .ok document) :
    ∃ chosen rendered, c.chosen projection defaults = .ok chosen ∧
      chosen.mapM Projection.render = .ok rendered ∧ document = rendered.map .object := by
  cases projection with
  | some p =>
    obtain ⟨v, hv, rfl⟩ := Outcome.map_eq_ok
      (show ((p.render.map Value.object).map some) = .ok document from h)
    obtain ⟨d, hd, rfl⟩ := Outcome.map_eq_ok hv
    exact ⟨some p, some d, rfl, by rw [Outcome.mapM_some, hd]; rfl, rfl⟩
  | none =>
    unfold Defaults.projectionFor at h
    rcases hr : defaults.resolve c.type.key with ⟨spec, after⟩
    have hchosen : c.chosen none defaults = spec := congrArg Prod.fst hr
    simp only [Projection.handed, Argument.ifGiven, hr] at h
    match spec, hchosen, h with
    | .error fault, _, h => cases h
    | .ok none, hchosen, h =>
      cases h
      exact ⟨none, none, hchosen, rfl, rfl⟩
    | .ok (some p), hchosen, h =>
      obtain ⟨d, hd, rfl⟩ := Outcome.map_eq_ok h
      exact ⟨some p, some d, hchosen, by rw [Outcome.mapM_some, hd]; rfl, rfl⟩

/-- No stage of a search is empty but that of a projection that asks for nothing, and only if no
highlights are asked for. -/
theorem stages_presence (c : Searcher ρ) (defaults : Defaults) (clause highlight limit : Argument)
    (projection : Option Projection) (stages : List Document)
    (h : (c.stages ⟨clause, Projection.handed projection, highlight, limit⟩ defaults).1
      = .ok stages) :
    ∃ chosen, c.chosen projection defaults = .ok chosen ∧
      Pipeline.Presence chosen highlight stages := by
  unfold Searcher.stages at h
  rcases hp : defaults.projectionFor c.type.key (Projection.handed projection) with ⟨document, after⟩
  dsimp only at h
  rw [hp] at h
  cases document with
  | error fault => cases h
  | ok document =>
    obtain ⟨chosen, rendered, hchosen, hrendered, rfl⟩ :=
      projectionFor_handed projection (congrArg Prod.fst hp)
    simp only [Option.map_map] at h
    exact ⟨chosen, hchosen, Pipeline.presence_of_build hrendered h⟩

/-- A search for movies whose default asks for nothing. -/
theorem stages_presence_of_blank_default :
    ∃ stages, (Searcher.stages ⟨.undecoded "Movie", .null⟩
        ⟨.made (.clause (.leaf (.text ⟨⟨.single "ring"⟩, ⟨.single "title"⟩, none, none⟩))),
          Projection.handed none, .null, .null⟩
        { registrations := [(⟨"Movie", "Movie"⟩, ⟨.fixed (.made (.projection {})), 0⟩)] }).1
          = .ok stages ∧ Pipeline.Presence (some {}) .null stages := by
  obtain ⟨chosen, hchosen, hp⟩ := stages_presence ⟨.undecoded "Movie", .null⟩
    { registrations := [(⟨"Movie", "Movie"⟩, ⟨.fixed (.made (.projection {})), 0⟩)] }
    (.made (.clause (.leaf (.text ⟨⟨.single "ring"⟩, ⟨.single "title"⟩, none, none⟩)))) .null .null
    none _ rfl
  have default : some {} = chosen := Except.ok.inj hchosen
  exact ⟨_, rfl, default ▸ hp⟩

/-- Not every stage that is sent holds something: a projection may ask for nothing. -/
theorem blank_projection_sent : ¬ ∀ (ρ : Type) (c : Searcher ρ) (defaults : Defaults)
    (clause highlight limit : Argument) (projection : Option Projection) (stages : List Document),
    (c.stages ⟨clause, Projection.handed projection, highlight, limit⟩ defaults).1 = .ok stages →
    ∀ key d, [(key, .object d)] ∈ stages → d ≠ [] := by
  intro h
  refine h Datum ⟨.undecoded "Movie", .null⟩ {}
    (.made (.clause (.leaf (.text ⟨⟨.single "ring"⟩, ⟨.single "title"⟩, none, none⟩)))) .null
    (.int 20) (some {}) _ rfl "$project" [] ?_ rfl
  exact List.mem_cons_of_mem _ (List.mem_cons_of_mem _ List.mem_cons_self)

end Searcher
end DocSearch
