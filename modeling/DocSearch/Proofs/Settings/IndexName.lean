import DocSearch.Proofs.Index.Guard
import DocSearch.Proofs.Search.Assembly
import DocSearch.Search.Server

/-! # The index that is kept and the index that is searched

Index work and searches read the name of their index from one variable. Index work takes whatever
the variable is set to, searches take an empty text as if it were not set; so they mean the same
index in every environment but those where the variable is set to the empty text. What the settings
name is what index work creates and drops and what pipelines are sent to. -/

namespace DocSearch

/-! ## Pipelines -/

namespace Pipeline

/-- The index that a pipeline is run on: the one that its search stage names, else the server's. -/
def addressed : List Document → Value
  | [(_, .object body)] :: _ => (Entries.get? "index" body).getD (.str serverDefaultIndex)
  | _ => .str serverDefaultIndex

theorem get?_searchBody {operator : String} {body : Value} {options : Option Value} {index : Value}
    (h : operator ≠ "index") : (searchBody [(operator, body)] options index).get? "index"
      = if index.isNull then none else some index := by
  have hempty : Entries.get? "index" ([] : Document) = none := rfl
  unfold searchBody
  cases options <;> cases index.isNull <;> simp [Entries.get?_cons, hempty, h.symm]

theorem addressed_build {clause highlight limit : Argument} {projection : Option Datum}
    {index : Value} {stages : List Document}
    (h : build clause projection highlight index limit = .ok stages) :
    addressed stages = if index.isNull then .str serverDefaultIndex else index := by
  obtain ⟨n, -, h⟩ := Outcome.bind_eq_ok h
  obtain ⟨taken, -, h⟩ := Outcome.bind_eq_ok h
  obtain ⟨rendered, hrendered, h⟩ := Outcome.bind_eq_ok h
  obtain ⟨options, -, h⟩ := Outcome.bind_eq_ok h
  obtain ⟨operator, body, rfl, -, hindex⟩ := Clause.documentOf_eq_single hrendered
  cases h
  rw [addressed, get?_searchBody hindex]
  split <;> rfl

end Pipeline

theorem Searcher.addressed_stages {ρ : Type} {c : Searcher ρ} {request : SearchRequest} {defaults : Defaults}
    {stages : List Document} (h : (c.stages request defaults).1 = .ok stages) :
    Pipeline.addressed stages = if c.index.isNull then .str serverDefaultIndex else c.index := by
  unfold Searcher.stages at h
  rcases hp : defaults.projectionFor c.type.key request.projection with ⟨projection, after⟩
  rw [hp] at h
  cases projection with
  | error fault => cases h
  | ok projection => exact Pipeline.addressed_build h

/-! ## Settings -/

/-- The index that searches with these settings are for. -/
def SearchSettings.searchedIndex (s : SearchSettings) : Value :=
  if s.searchIndex.isNull then .str serverDefaultIndex else s.searchIndex

theorem IndexSettings.indexName_of_load {env : Environment} {s : IndexSettings}
    (h : IndexSettings.load env = .ok s) :
    s.indexName = env.getOr indexVariable serverDefaultIndex := by
  unfold IndexSettings.load at h
  split at h
  · cases h
  · cases h
    rfl

theorem SearchSettings.searchedIndex_of_load {env : Environment} {s : SearchSettings}
    (h : SearchSettings.load env {} = .ok s) :
    s.searchedIndex = .str ((env.nonEmpty? indexVariable).getD serverDefaultIndex) := by
  obtain ⟨timeout, -, h⟩ := Outcome.bind_eq_ok h
  cases h
  unfold SearchSettings.searchedIndex
  dsimp only [Option.getD_none]
  cases env.nonEmpty? indexVariable <;> rfl

/-- An index is named alike with the empty text taken for a name and with it taken for none, unless
it is what the variable is set to. -/
theorem Environment.getOr_eq_nonEmpty?_iff {env : Environment} {name default : String}
    (h : default ≠ "") :
    env.getOr name default = (env.nonEmpty? name).getD default ↔ env.get? name ≠ some "" := by
  unfold getOr nonEmpty?
  cases env.get? name with
  | none => simp
  | some value =>
    by_cases hv : value = ""
    · simp [Option.filter, hv, h.symm]
    · simp [Option.filter, hv]

/-- How the index of index work and the index of searches are related, both with the settings of
one environment. -/
structure NamesIndex (env : Environment) (kept : IndexSettings) (searched : SearchSettings) :
    Prop where
  /-- They are the same, unless the variable is set to the empty text. -/
  same : .str kept.indexName = searched.searchedIndex ↔ env.get? indexVariable ≠ some ""
  /-- Then the empty text is the name of the one, and the other is the server's own. -/
  empty : env.get? indexVariable = some "" →
    kept.indexName = "" ∧ searched.searchedIndex = .str serverDefaultIndex
  /-- Whatever index work is done, what it creates or drops is the one. -/
  work : ∀ (σ τ : Type) [Clock τ] (service : IndexService σ τ) (poll : τ)
    (operations : List (IndexOperation τ)) (s : σ),
    ∃ log, (∀ before, (IndexWork.mk service kept poll).recorded.performAll operations (before, s)
      = (before ++ log, (IndexWork.mk service kept poll).performAll operations s)) ∧
      (∀ place name definition, (place, name, definition) ∈ log.creates → name = kept.indexName) ∧
      ∀ place name, (place, name) ∈ log.drops → name = kept.indexName
  /-- Whatever is searched for, the pipeline is for the other. -/
  searches : ∀ (ρ : Type) (type : ResultType ρ) setup, SearchSetup.of type searched = .ok setup →
    ∀ request defaults stages, (setup.searcher.stages request defaults).1 = .ok stages →
      Pipeline.addressed stages = searched.searchedIndex

theorem SearchSetup.index_of {ρ : Type} {type : ResultType ρ} {s : SearchSettings}
    {setup : SearchSetup ρ} (h : SearchSetup.of type s = .ok setup) : setup.searcher.index = s.searchIndex := by
  obtain ⟨connection, -, h⟩ := Outcome.bind_eq_ok h
  obtain ⟨path, -, h⟩ := Outcome.bind_eq_ok h
  cases h
  rfl

/-- In every environment that has settings for both, index work keeps the index that is searched if
and only if the variable is not set to the empty text. -/
theorem load_namesIndex {env : Environment} {kept : IndexSettings} {searched : SearchSettings}
    (hkept : IndexSettings.load env = .ok kept)
    (hsearched : SearchSettings.load env {} = .ok searched) : NamesIndex env kept searched where
  same := by
    rw [IndexSettings.indexName_of_load hkept, SearchSettings.searchedIndex_of_load hsearched,
      Value.str.injEq]
    exact Environment.getOr_eq_nonEmpty?_iff (by decide)
  empty := by
    intro hempty
    rw [IndexSettings.indexName_of_load hkept, SearchSettings.searchedIndex_of_load hsearched,
      Environment.getOr, Environment.nonEmpty?, hempty]
    exact ⟨rfl, rfl⟩
  work := by
    intro σ τ _ service poll operations s
    obtain ⟨log, recorded, course⟩ :=
      (IndexWork.mk service kept poll).exists_performAll operations s
    refine ⟨log, recorded, ?_, ?_⟩
    · intro place name definition hm
      exact (course.within.creates place name definition hm).1
    · intro place name hm
      exact (course.within.drops place name hm).1
  searches := by
    intro ρ type setup hsetup request defaults stages hstages
    rw [Searcher.addressed_stages hstages, SearchSetup.index_of hsetup,
      SearchSettings.searchedIndex]

/-- The environment of a deployment in which the index has a name. -/
def Environment.naming (index : String) : Environment :=
  [(connectionVariable, "mongodb://localhost"), (indexVariable, index)]

/-- The settings of searches there. -/
def SearchSettings.naming (index : Value) : SearchSettings :=
  ⟨.str "mongodb://localhost", .int 10000, .str "sample_mflix", .str "movies", index, .null⟩

/-- The settings of index work there. -/
def IndexSettings.naming (index : String) : IndexSettings :=
  ⟨"mongodb://localhost", index, ⟨"sample_mflix", "movies"⟩,
    ⟨"sample_airbnb", "listingsAndReviews"⟩⟩

theorem load_namesIndex_films :
    IndexSettings.load (.naming "films") = .ok (.naming "films") ∧
      SearchSettings.load (.naming "films") {} = .ok (.naming (.str "films")) ∧
      .str (IndexSettings.naming "films").indexName
        = (SearchSettings.naming (.str "films")).searchedIndex := by
  have kept : IndexSettings.load (.naming "films") = .ok (.naming "films") := rfl
  have searched : SearchSettings.load (.naming "films") {} = .ok (.naming (.str "films")) := rfl
  exact ⟨kept, searched, (load_namesIndex kept searched).same.mpr (by decide)⟩

/-- Not in every environment is the index that is kept the one that is searched. -/
theorem empty_index_kept_apart : ¬ ∀ (env : Environment) (kept : IndexSettings)
    (searched : SearchSettings), IndexSettings.load env = .ok kept →
    SearchSettings.load env {} = .ok searched → .str kept.indexName = searched.searchedIndex := by
  intro h
  have same := h (.naming "") (.naming "") (.naming .null) rfl rfl
  exact absurd (Value.str.inj same) (by decide)

end DocSearch
