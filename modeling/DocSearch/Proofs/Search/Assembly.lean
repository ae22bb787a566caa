import DocSearch.Proofs.Query.Lossless
import DocSearch.Proofs.Query.Rendered
import DocSearch.Search.Stages

/-! # How the stages of a search are put together

Five arguments meet in one list of stages without getting into each other's way. A rendered clause
has the key of its operator and no other, so highlights and index always come under keys of their
own; the only rule across stages is the one that makes a projection bring back highlights. What two
calls differ in shows in its own place, and nowhere else. -/

namespace DocSearch

/-- A clause is rendered under its operator, which is none of the keys beside it in a search. -/
theorem Clause.documentOf_eq_single {a : Argument} {d : Document}
    (h : Clause.documentOf a = .ok d) :
    ∃ operator body, d = [(operator, body)] ∧ operator ≠ "highlight" ∧ operator ≠ "index" := by
  obtain ⟨c, hc, hd⟩ := Outcome.bind_eq_ok h
  cases c with
  | leaf c =>
    obtain ⟨body, rfl⟩ := LeafClause.render_eq_single hd
    refine ⟨c.operator, _, rfl, ?_, ?_⟩ <;> cases c <;> simp [LeafClause.operator]
  | compound c =>
    cases hd
    exact ⟨_, _, rfl, by decide, by decide⟩

namespace Pipeline

variable {clause : Argument} {projection : Option Document} {highlight : Option HighlightOptions}
  {index : Value} {limit : Argument} {rendered : Document} {stages : List Document} {n : Option Int}

/-- The pipeline for a plain projection and finished highlight options, both of which may be left
out. -/
def assemble (clause : Argument) (projection : Option Document)
    (highlight : Option HighlightOptions) (index : Value) (limit : Argument) :
    Except Fault (List Document) :=
  build clause (projection.map fun d => .ofValue (.object d))
    (match highlight with
      | none => .null
      | some options => .made (.highlight options)) index limit

/-! ## Limits -/

/-- A limit that a search can have: none, or a positive integer. -/
def Counts (limit : Argument) : Prop := limit = .null ∨ ∃ n, limit = .int n ∧ 0 < n

theorem limitOf_eq_ok (h : limitOf limit = .ok n) :
    (limit = .null ∧ n = none) ∨ ∃ k, limit = .int k ∧ 0 < k ∧ n = some k := by
  cases limit with
  | null =>
    cases h
    exact .inl ⟨rfl, rfl⟩
  | int k =>
    by_cases hk : 0 < k
    · rw [limitOf, if_pos hk] at h
      exact .inr ⟨k, rfl, hk, (Except.ok.inj h).symm⟩
    · rw [limitOf, if_neg hk] at h
      cases h
  | bool | float | str | list | object | made => cases h

theorem Counts.exists_limitOf (h : Counts limit) : ∃ n, limitOf limit = .ok n := by
  rcases h with rfl | ⟨k, rfl, hk⟩
  · exact ⟨none, rfl⟩
  · exact ⟨some k, if_pos hk⟩

theorem counts_of_limitOf (h : limitOf limit = .ok n) : Counts limit := by
  rcases limitOf_eq_ok h with ⟨hnull, -⟩ | ⟨k, hint, hk, -⟩
  · exact .inl hnull
  · exact .inr ⟨k, hint, hk⟩

theorem exists_invalidLimit (h : ¬ Counts limit) :
    ∃ shown, limitOf limit = .error (.invalidLimit shown) := by
  cases limit with
  | null => exact absurd (.inl rfl) h
  | int k =>
    refine ⟨toString k, if_neg fun hk => h (.inr ⟨k, rfl, hk⟩)⟩
  | bool | float | str | list | object | made => exact ⟨_, rfl⟩

/-! ## Stages -/

/-- The stages around a rendered clause. -/
def stagesOf (rendered : Document) (projection : Option Document)
    (highlight : Option HighlightOptions) (index : Value) (n : Option Int) : List Document :=
  [(searchKey, .object (searchBody rendered (highlight.map HighlightOptions.render) index))] ::
    ((n.map fun n => [(limitKey, .int n)]).toList ++
      (projection.map fun d => [(projectKey, .object (projectBody d highlight.isSome))]).toList)

/-- A document is taken for a projection as it is. -/
theorem mapM_toDocument_ofValue : (projection.map fun d =>
    Datum.ofValue (.object d)).mapM Datum.toDocument = .ok projection := by
  cases projection with
  | none => rfl
  | some d =>
    rw [Option.map_some, Outcome.mapM_some, Datum.toDocument_ofValue_object]
    rfl

theorem assemble_eq : assemble clause projection highlight index limit = (do
    let n ← limitOf limit
    let rendered ← Clause.documentOf clause
    return stagesOf rendered projection highlight index n) := by
  have hhighlight : (Argument.ifGiven (match highlight with
      | none => .null
      | some options => .made (.highlight options))).mapM Argument.render
        = .ok (highlight.map HighlightOptions.render) := by
    cases highlight <;> rfl
  unfold assemble build stagesOf
  rw [mapM_toDocument_ofValue, hhighlight]
  cases highlight <;> rfl

theorem assemble_eq_ok (h : assemble clause projection highlight index limit = .ok stages) :
    ∃ n operator body, limitOf limit = .ok n ∧ Clause.documentOf clause = .ok [(operator, body)] ∧
      operator ≠ "highlight" ∧ operator ≠ "index" ∧
      stages = stagesOf [(operator, body)] projection highlight index n := by
  rw [assemble_eq] at h
  obtain ⟨n, hn, h⟩ := Outcome.bind_eq_ok h
  obtain ⟨d, hd, h⟩ := Outcome.bind_eq_ok h
  obtain ⟨operator, body, rfl, hhighlight, hindex⟩ := Clause.documentOf_eq_single hd
  exact ⟨n, operator, body, hn, hd, hhighlight, hindex, (Except.ok.inj h).symm⟩

/-- The document of a search stage: the rendered clause, then the highlight options and the index
that are given. -/
structure SearchStage (rendered : Document) (highlight : Option HighlightOptions) (index : Value)
    (body : Document) : Prop where
  keys : body.keys = rendered.keys ++ (highlight.map fun _ => "highlight").toList
    ++ if index.isNull then [] else ["index"]
  nodup : body.keys.Nodup
  clause : ∃ operator, rendered.keys = [operator] ∧ body.get? operator = rendered.get? operator
  highlight : body.get? "highlight" = highlight.map HighlightOptions.render
  index : body.get? "index" = if index.isNull then none else some index

/-- The document of a projection stage: the given one, and highlights if they are asked for
elsewhere and not here. -/
def ProjectStage (projection : Document) (highlighted : Bool) (body : Document) : Prop :=
  body = projection ++ if highlighted = true ∧ "searchHighlights" ∉ projection.keys
    then [("searchHighlights", .object [("$meta", .str "searchHighlights")])] else []

/-- The stages of a search, each a document with one key. -/
structure Assembled (rendered : Document) (projection : Option Document)
    (highlight : Option HighlightOptions) (index : Value) (limit : Argument)
    (stages : List Document) : Prop where
  keys : stages.map Entries.keys = ["$search"] :: ((limit.ifGiven.map fun _ => ["$limit"]).toList
    ++ (projection.map fun _ => ["$project"]).toList)
  search : ∃ body, [("$search", .object body)] ∈ stages ∧ SearchStage rendered highlight index body
  limit : ∀ n, limit = .int n → [("$limit", .int n)] ∈ stages
  project : ∀ d, projection = some d →
    ∃ body, [("$project", .object body)] ∈ stages ∧ ProjectStage d highlight.isSome body

theorem searchStage_searchBody {operator : String} {body : Value}
    (hhighlight : operator ≠ "highlight") (hindex : operator ≠ "index") :
    SearchStage [(operator, body)] highlight index
      (searchBody [(operator, body)] (highlight.map HighlightOptions.render) index) := by
  have hempty : ∀ key, Entries.get? key ([] : Document) = none := fun _ => rfl
  unfold searchBody
  constructor
  · cases highlight <;> cases index <;> rfl
  · cases highlight <;> cases index.isNull <;> simp [Entries.keys, hhighlight, hindex]
  · refine ⟨operator, rfl, ?_⟩
    rw [List.append_assoc, List.singleton_append, Entries.get?_cons, Entries.get?_cons, if_pos rfl,
      if_pos rfl]
  · cases highlight <;> cases index.isNull <;> simp [Entries.get?_cons, hempty, hhighlight.symm]
  · cases highlight <;> cases index.isNull <;> simp [Entries.get?_cons, hempty, hindex.symm]

theorem projectStage_projectBody (projection : Document) (highlighted : Bool) :
    ProjectStage projection highlighted (projectBody projection highlighted) := by
  have hcontains : projection.contains "searchHighlights" = true
      ↔ "searchHighlights" ∈ projection.keys := by
    simp [Entries.contains, Entries.keys]
  unfold ProjectStage projectBody
  by_cases hm : "searchHighlights" ∈ projection.keys
  · have hc : projection.contains Projection.highlightsKey = true := hcontains.mpr hm
    simp [hm, hc]
  · have hc : projection.contains Projection.highlightsKey = false :=
      Bool.eq_false_iff.mpr fun hc => hm (hcontains.mp hc)
    cases highlighted with
    | false => simp
    | true =>
      simp only [hm, hc, not_false_eq_true, and_self, if_true, Bool.not_false, Bool.and_self]
      rfl

theorem assembled_stagesOf {operator : String} {body : Value}
    (hhighlight : operator ≠ "highlight") (hindex : operator ≠ "index")
    (hn : limitOf limit = .ok n) :
    Assembled [(operator, body)] projection highlight index limit
      (stagesOf [(operator, body)] projection highlight index n) where
  keys := by
    rcases limitOf_eq_ok hn with ⟨rfl, rfl⟩ | ⟨k, rfl, -, rfl⟩ <;> cases projection <;> rfl
  search := ⟨_, List.mem_cons_self, searchStage_searchBody hhighlight hindex⟩
  limit := by
    rintro k rfl
    rcases limitOf_eq_ok hn with ⟨hnull, -⟩ | ⟨k', hk, -, rfl⟩
    · cases hnull
    · cases hk
      exact List.mem_cons_of_mem _ (List.mem_append_left _ (.head _))
  project := by
    rintro d rfl
    refine ⟨_, ?_, projectStage_projectBody d highlight.isSome⟩
    exact List.mem_cons_of_mem _ (List.mem_append_right _ (.head _))

/-! ## What is left without one of them -/

/-- A stage with its document changed if it is of one kind. -/
def within (kind : String) (change : Document → Document) (stage : Document) : Document :=
  stage.map fun (key, v) =>
    match v with
    | .object d => (key, if key = kind then .object (change d) else v)
    | v => (key, v)

def withoutLimit (stages : List Document) : List Document :=
  stages.filter fun stage => stage.keys != ["$limit"]

def withoutIndex (stages : List Document) : List Document :=
  stages.map (within "$search" (Entries.erase "index"))

/-- Without highlights, wherever they are asked for. -/
def withoutHighlights (stages : List Document) : List Document :=
  stages.map fun stage => within "$project" (Entries.erase "searchHighlights")
    (within "$search" (Entries.erase "highlight") stage)

theorem withoutLimit_stagesOf : withoutLimit (stagesOf rendered projection highlight index n)
    = stagesOf rendered projection highlight index none := by
  cases n <;> cases projection <;> rfl

theorem withoutIndex_stagesOf {operator : String} {body : Value} (h : operator ≠ "index") :
    withoutIndex (stagesOf [(operator, body)] projection highlight index n)
      = stagesOf [(operator, body)] projection highlight .null n := by
  have herase : Entries.erase "index"
      (searchBody [(operator, body)] (highlight.map HighlightOptions.render) index)
        = searchBody [(operator, body)] (highlight.map HighlightOptions.render) .null := by
    unfold searchBody Entries.erase
    cases highlight <;> cases index.isNull <;> simp [h, Value.isNull]
  unfold stagesOf
  rw [← herase]
  cases n <;> cases projection <;> rfl

theorem withoutHighlights_stagesOf {operator : String} {body : Value} (h : operator ≠ "highlight") :
    withoutHighlights (stagesOf [(operator, body)] projection highlight index n)
      = stagesOf [(operator, body)] (projection.map (Entries.erase "searchHighlights")) none
        index n := by
  have herase : Entries.erase "highlight"
      (searchBody [(operator, body)] (highlight.map HighlightOptions.render) index)
        = searchBody [(operator, body)] none index := by
    unfold searchBody Entries.erase
    cases highlight <;> cases index.isNull <;> simp [h]
  have hproject : ∀ d highlighted, Entries.erase "searchHighlights" (projectBody d highlighted)
      = Entries.erase "searchHighlights" d := by
    intro d highlighted
    rw [projectStage_projectBody d highlighted, Entries.erase, List.filter_append]
    split <;> simp [Entries.erase]
  unfold stagesOf
  show _ = [(searchKey, Value.object (searchBody [(operator, body)] none index))] :: _
  rw [← herase]
  cases projection with
  | none => cases n <;> rfl
  | some d =>
    show _ = _ :: (_ ++ [[(projectKey, Value.object (projectBody (Entries.erase _ d) false))]])
    rw [projectStage_projectBody _ false]
    simp only [Bool.false_eq_true, false_and, if_false, List.append_nil]
    rw [← hproject d highlight.isSome]
    cases n <;> rfl

/-- What comes of a pipeline's arguments. -/
structure Assembly (clause : Argument) (projection : Option Document)
    (highlight : Option HighlightOptions) (index : Value) (limit : Argument) : Prop where
  succeeds_iff : (∃ stages, assemble clause projection highlight index limit = .ok stages) ↔
    Counts limit ∧ ∃ rendered, Clause.documentOf clause = .ok rendered
  limit_first : ¬ Counts limit → ∃ shown, assemble clause projection highlight index limit
    = .error (.invalidLimit shown) ∧ (Fault.invalidLimit shown).kind = .value
  clause_fault : Counts limit → ∀ fault, Clause.documentOf clause = .error fault →
    assemble clause projection highlight index limit = .error fault
  stages : ∀ stages, assemble clause projection highlight index limit = .ok stages →
    ∃ rendered, Clause.documentOf clause = .ok rendered ∧
      Assembled rendered projection highlight index limit stages
  limit_apart : ∀ limit' stages stages',
    assemble clause projection highlight index limit = .ok stages →
    assemble clause projection highlight index limit' = .ok stages' →
    withoutLimit stages = withoutLimit stages'
  index_apart : ∀ index' stages stages',
    assemble clause projection highlight index limit = .ok stages →
    assemble clause projection highlight index' limit = .ok stages' →
    withoutIndex stages = withoutIndex stages'
  highlight_apart : ∀ highlight' stages stages',
    assemble clause projection highlight index limit = .ok stages →
    assemble clause projection highlight' index limit = .ok stages' →
    withoutHighlights stages = withoutHighlights stages'

/-- Two pipelines of one clause come of one rendered document, and are alike once what they differ
in is left out. -/
theorem alike_without {strip : List Document → List Document} {highlight' : Option HighlightOptions}
    {index' : Value} {limit' : Argument} {stages' : List Document}
    (h : assemble clause projection highlight index limit = .ok stages)
    (h' : assemble clause projection highlight' index' limit' = .ok stages')
    (hstrip : ∀ operator body n n', operator ≠ "highlight" → operator ≠ "index" →
      limitOf limit = .ok n → limitOf limit' = .ok n' →
      strip (stagesOf [(operator, body)] projection highlight index n)
        = strip (stagesOf [(operator, body)] projection highlight' index' n')) :
    strip stages = strip stages' := by
  obtain ⟨n, operator, body, hn, hd, hhighlight, hindex, rfl⟩ := assemble_eq_ok h
  obtain ⟨n', operator', body', hn', hd', -, -, rfl⟩ := assemble_eq_ok h'
  rw [hd] at hd'
  cases hd'
  exact hstrip operator body n n' hhighlight hindex hn hn'

theorem assembly (clause : Argument) (projection : Option Document)
    (highlight : Option HighlightOptions) (index : Value) (limit : Argument) :
    Assembly clause projection highlight index limit where
  succeeds_iff := by
    constructor
    · rintro ⟨stages, h⟩
      obtain ⟨n, operator, body, hn, hd, -⟩ := assemble_eq_ok h
      exact ⟨counts_of_limitOf hn, _, hd⟩
    · rintro ⟨hlimit, rendered, hd⟩
      obtain ⟨n, hn⟩ := hlimit.exists_limitOf
      exact ⟨_, by rw [assemble_eq, hn, hd]; rfl⟩
  limit_first := by
    intro hlimit
    obtain ⟨shown, hn⟩ := exists_invalidLimit hlimit
    exact ⟨shown, by rw [assemble_eq, hn]; rfl, rfl⟩
  clause_fault := by
    intro hlimit fault hd
    obtain ⟨n, hn⟩ := hlimit.exists_limitOf
    rw [assemble_eq, hn, hd]
    rfl
  stages := by
    intro stages h
    obtain ⟨n, operator, body, hn, hd, hhighlight, hindex, rfl⟩ := assemble_eq_ok h
    exact ⟨_, hd, assembled_stagesOf hhighlight hindex hn⟩
  limit_apart := by
    intro limit' stages stages' h h'
    refine alike_without h h' fun operator body n n' _ _ _ _ => ?_
    rw [withoutLimit_stagesOf, withoutLimit_stagesOf]
  index_apart := by
    intro index' stages stages' h h'
    refine alike_without h h' fun operator body n n' _ hindex hn hn' => ?_
    rw [hn] at hn'
    cases hn'
    rw [withoutIndex_stagesOf hindex, withoutIndex_stagesOf hindex]
  highlight_apart := by
    intro highlight' stages stages' h h'
    refine alike_without h h' fun operator body n n' hhighlight _ hn hn' => ?_
    rw [hn] at hn'
    cases hn'
    rw [withoutHighlights_stagesOf hhighlight, withoutHighlights_stagesOf hhighlight]

/-- A search in titles with all of the parts. -/
theorem assembly_of_text : ∃ rendered stages,
    assemble (.made (.clause (.leaf (.text ⟨⟨.single "ring"⟩, ⟨.single "title"⟩, none, none⟩))))
      (some [("title", .int 1)]) (some ⟨⟨.single "title"⟩, .whole 500000, .whole 5⟩)
      (.str "default") (.int 5) = .ok stages ∧
    Assembled rendered (some [("title", .int 1)])
      (some ⟨⟨.single "title"⟩, .whole 500000, .whole 5⟩) (.str "default") (.int 5) stages := by
  have hlimit : Counts (.int 5) := .inr ⟨5, rfl, by decide⟩
  have h := assembly
    (.made (.clause (.leaf (.text ⟨⟨.single "ring"⟩, ⟨.single "title"⟩, none, none⟩))))
    (some [("title", .int 1)]) (some ⟨⟨.single "title"⟩, .whole 500000, .whole 5⟩) (.str "default")
    (.int 5)
  obtain ⟨stages, hstages⟩ := h.succeeds_iff.mpr ⟨hlimit, _, rfl⟩
  obtain ⟨rendered, -, hassembled⟩ := h.stages stages hstages
  exact ⟨rendered, stages, hstages, hassembled⟩

end Pipeline
end DocSearch
