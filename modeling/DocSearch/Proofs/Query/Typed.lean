import DocSearch.Argument.Clause
import DocSearch.Proofs.Query.Faithful
import DocSearch.Proofs.Query.Rendered

/-! # What constructors keep unchecked

Constructors check some of their arguments and keep others as they are. If what they keep is of the
type it is annotated with, what they make is typed: coordinates and factors are numbers, lines go
through points, and where a document of fuzzy options will be asked for there are fuzzy options. One
lemma says so of each constructor and each factory. -/

namespace DocSearch

/-! ## Arguments that are plain data -/

namespace Argument

/-- A number that is handed over. -/
def ofNumber (n : Number) : Argument := .ofValue (.ofNumber n)

mutual
/-- Plain data goes into an unchecked slot as it is. -/
@[simp] theorem datum_ofValue : ∀ v : Value, (ofValue v).datum = .ofValue v
  | .null | .bool _ | .int _ | .float _ | .str _ => rfl
  | .list items => congrArg Datum.list (dataOf_ofItems items)
  | .object entries => congrArg Datum.object (entriesOf_ofEntries entries)

theorem dataOf_ofItems : ∀ items : List Value, dataOf (ofItems items) = Datum.ofItems items
  | [] => rfl
  | v :: rest => by
    rw [ofItems, dataOf, datum_ofValue v, dataOf_ofItems rest]
    rfl

theorem entriesOf_ofEntries :
    ∀ entries : Document, entriesOf (ofEntries entries) = Datum.ofDocumentEntries entries
  | [] => rfl
  | (key, v) :: rest => by
    rw [ofEntries, entriesOf, datum_ofValue v, entriesOf_ofEntries rest]
    rfl
end

@[simp] theorem datum_ofNumber (n : Number) : (ofNumber n).datum = .ofNumber n :=
  datum_ofValue (.ofNumber n)

theorem required_ofNumber (what : String) (n : Number) :
    (ofNumber n).required what = .ok (.ofNumber n) := by
  cases n <;> rfl

theorem required_ofDocument (what : String) (d : Document) :
    (ofValue (.object d)).required what = .ok (.ofValue (.object d)) :=
  congrArg Except.ok (datum_ofValue (.object d))

/-- A latitude and a longitude that are handed over together. -/
def ofPair (pair : Number × Number) : Argument := .list [.ofNumber pair.1, .ofNumber pair.2]

end Argument

/-! ## Typed parts -/

/-- A boost takes its factor from a number or a field, or from nothing; the other strategies hold a
number or a document. -/
inductive Adjustment.Typed : Adjustment → Prop
  | unset (fallback : Datum) : Typed (.rescaling (.boost ⟨.unset, fallback⟩))
  | factor (factor : Number) (fallback : Datum) :
      Typed (.rescaling (.boost ⟨.value (.ofNumber factor), fallback⟩))
  | field (path : FieldPath) (fallback : Number) :
      Typed (.rescaling (.boost ⟨.path path, .ofNumber fallback⟩))
  | constant (value : Number) : Typed (.rescaling (.constant (.ofNumber value)))
  | function (expression : Document) : Typed (.function (.ofValue (.object expression)))

/-- The options hold something in order, or nothing at all. -/
def AdjustmentOptions.Typed (o : AdjustmentOptions) : Prop := ∀ a ∈ o.strategy, a.Typed

namespace LeafClause

/-- The score as options for any adjustment. -/
def score? : LeafClause → Option AdjustmentOptions
  | .text c => c.score
  | .phrase c => c.score
  | .autocomplete c => c.score.map fun o => ⟨o.role, o.strategy.map .rescaling⟩
  | .geoWithin c => c.score

/-- What the clause asks for documents when it is rendered is what it should be. -/
structure Typed (c : LeafClause) : Prop where
  fuzzy : ∀ slot ∈ c.fuzzy?, ∃ o : FuzzyOptions, slot = o.datum
  region : ∀ g, c = .geoWithin g → g.shape.Annotated
  score : ∀ o ∈ c.score?, o.Typed

end LeafClause

/-- Embedded scores are never part of a leaf, so nothing is asked of them. -/
def Strategy.Typed (s : Strategy) : Prop := ∀ a, s = .adjustment a → a.Typed

def ScoreOptions.Typed (o : ScoreOptions) : Prop := ∀ s ∈ o.strategy, s.Typed

/-- Where fuzzy options belong there are some. -/
def Matching.Typed (m : Matching) : Prop := ∀ slot ∈ m.options?, ∃ o : FuzzyOptions, slot = o.datum

/-! ## Shapes -/

theorem Point.annotated_of {latitude longitude : Number} {p : Point}
    (h : Point.of (.ofNumber latitude) (.ofNumber longitude) = .ok p) : p.Annotated := by
  refine ⟨latitude, longitude, ?_⟩
  cases latitude <;> cases longitude <;> exact (Except.ok.inj h).symm

theorem LineString.annotated_points {points : List Point} (hp : ∀ p ∈ points, p.Annotated) :
    LineString.Annotated ⟨points.map Point.datum⟩ := by
  intro d hd
  obtain ⟨p, hm, rfl⟩ := List.mem_map.mp hd
  exact ⟨p, hp p hm, rfl⟩

theorem LineString.annotated_of {points : List Point} {l : LineString}
    (hp : ∀ p ∈ points, p.Annotated)
    (h : LineString.of (.list (points.map fun p => .made (.point p))) = .ok l) : l.Annotated := by
  have hl : l = ⟨points.map Point.datum⟩ := by
    cases h
    rw [List.map_map]
    rfl
  rw [hl]
  exact annotated_points hp

namespace Polygon

theorem checkRing_eq {l ring : LineString} (h : checkRing l = .ok ring) : ring = l := by
  unfold checkRing at h
  split at h
  · cases h
  · split at h
    · exact (Except.ok.inj h).symm
    · cases h

theorem checkRings_eq {lines rings : List LineString} (h : checkRings lines = .ok rings) :
    rings = lines := by
  induction lines generalizing rings with
  | nil => exact (Except.ok.inj h).symm
  | cons l lines ih =>
    obtain ⟨ring, hc, h⟩ := Outcome.bind_eq_ok h
    obtain ⟨rest, hr, h⟩ := Outcome.bind_eq_ok h
    cases h
    rw [checkRing_eq hc, ih hr]

theorem mem_of_ringsOf {items : List Argument} {rings : List LineString}
    (h : ringsOf items = .ok rings) : ∀ l ∈ rings, .made (.lineString l) ∈ items := by
  induction items generalizing rings with
  | nil =>
    cases h
    intro l hl
    cases hl
  | cons a rest ih =>
    unfold ringsOf at h
    split at h
    · contradiction
    · rename_i heq
      cases heq
      obtain ⟨ring', hc, h⟩ := Outcome.bind_eq_ok h
      obtain ⟨rings', hr, h⟩ := Outcome.bind_eq_ok h
      cases h
      cases checkRing_eq hc
      intro l hl
      rcases List.mem_cons.mp hl with rfl | hl
      · exact List.mem_cons_self
      · exact List.mem_cons_of_mem _ (ih hr l hl)
    · cases h

theorem annotated_of {items : List Argument} {p : Polygon}
    (hi : ∀ l, .made (.lineString l) ∈ items → l.Annotated) (h : Polygon.of (.list items) = .ok p) :
    p.Annotated := by
  obtain ⟨items', hs, h⟩ := Outcome.bind_eq_ok h
  cases hs
  split at h
  · cases h
  · obtain ⟨rings, hr, rfl⟩ := Outcome.map_eq_ok h
    intro l hl
    exact hi l (mem_of_ringsOf hr l hl)

/-- The point of a pair of numbers. -/
def pairPoint (pair : Number × Number) : Point := ⟨.ofNumber pair.1, .ofNumber pair.2⟩

theorem pointOf_pair (pair : Number × Number) :
    pointOf (Argument.ofPair pair) = .ok (pairPoint pair) := by
  obtain ⟨latitude, longitude⟩ := pair
  cases latitude <;> cases longitude <;> rfl

theorem lineOf_pairs (pairs : List (Number × Number)) :
    lineOf (.list (pairs.map Argument.ofPair)) = .ok ⟨(pairs.map pairPoint).map Point.datum⟩ := by
  rw [lineOf, Argument.items]
  show (List.mapM pointOf (pairs.map Argument.ofPair) >>= fun points =>
    .ok (⟨points.map Point.datum⟩ : LineString)) = _
  rw [Outcome.mapM_map_ok pointOf_pair]
  rfl

theorem annotated_ofCoordinates {rings : List (List (Number × Number))} {p : Polygon}
    (h : Polygon.ofCoordinates (.list (rings.map fun ring => .list (ring.map .ofPair))) = .ok p) :
    p.Annotated := by
  obtain ⟨items, hs, h⟩ := Outcome.bind_eq_ok h
  cases hs
  rw [Outcome.mapM_map_ok lineOf_pairs] at h
  unfold ofRings at h
  obtain ⟨lines, hl, h⟩ := Outcome.bind_eq_ok h
  split at h
  · cases h
  · obtain ⟨rings', hc, rfl⟩ := Outcome.map_eq_ok h
    rw [checkRings_eq hc]
    cases hl
    intro l hm
    obtain ⟨ring, _, rfl⟩ := List.mem_map.mp hm
    refine LineString.annotated_points ?_
    intro q hq
    obtain ⟨pair, _, rfl⟩ := List.mem_map.mp hq
    exact ⟨pair.1, pair.2, rfl⟩

end Polygon

namespace MultiPolygon

theorem mem_of_polygonsOf {items : List Argument} {polygons : List Polygon}
    (h : polygonsOf items = .ok polygons) :
    ∀ p ∈ polygons, .made (.shape (.polygon p)) ∈ items := by
  induction items generalizing polygons with
  | nil =>
    cases h
    intro p hp
    cases hp
  | cons a rest ih =>
    unfold polygonsOf at h
    split at h
    · contradiction
    · rename_i heq
      cases heq
      obtain ⟨polygons', hr, rfl⟩ := Outcome.map_eq_ok h
      intro p hp
      rcases List.mem_cons.mp hp with rfl | hp
      · exact List.mem_cons_self
      · exact List.mem_cons_of_mem _ (ih hr p hp)
    · cases h

theorem annotated_of {items : List Argument} {m : MultiPolygon}
    (hi : ∀ p, .made (.shape (.polygon p)) ∈ items → p.Annotated)
    (h : MultiPolygon.of (.list items) = .ok m) : m.Annotated := by
  obtain ⟨items', hs, h⟩ := Outcome.bind_eq_ok h
  cases hs
  split at h
  · cases h
  · obtain ⟨polygons, hr, rfl⟩ := Outcome.map_eq_ok h
    intro p hp
    exact hi p (mem_of_polygonsOf hr p hp)

end MultiPolygon

theorem Box.cornerOf_eq {corner : Corner} {a : Argument} {p : Point}
    (h : Box.cornerOf corner a = .ok p) : a = .made (.point p) := by
  unfold Box.cornerOf at h
  split at h
  · cases h
    rfl
  · cases h

theorem Circle.centerOf_eq {a : Argument} {p : Point} (h : Circle.centerOf a = .ok p) :
    a = .made (.point p) := by
  unfold Circle.centerOf at h
  split at h
  · cases h
    rfl
  · cases h

theorem Shape.of_eq {a : Argument} {s : Shape} (h : Shape.of a = .ok s) : a = .made (.shape s) := by
  unfold Shape.of at h
  split at h
  · cases h
    rfl
  · cases h

/-! ## Scores -/

theorem BoostScore.typed_of {value path : Argument} {fallback : Number} {b : BoostScore}
    (hv : value = .null ∨ ∃ factor, value = .ofNumber factor)
    (h : BoostScore.of value path (.ofNumber fallback) = .ok b) :
    Adjustment.Typed (.rescaling (.boost b)) := by
  unfold BoostScore.of at h
  split at h
  · cases h
    exact .unset _
  · obtain ⟨field, _, rfl⟩ := Outcome.map_eq_ok h
    rw [Argument.datum_ofNumber]
    exact .field field fallback
  · rcases hv with rfl | ⟨factor, rfl⟩
    · contradiction
    · cases h
      rw [Argument.datum_ofNumber]
      exact .factor factor _
  · cases h

theorem Strategy.typed_adjustment {a : Adjustment} (h : a.Typed) :
    Strategy.Typed (.adjustment a) := by
  intro a' ha
  cases ha
  exact h

theorem Strategy.typed_embedded (e : EmbeddedScore) : Strategy.Typed (.embedded e) := by
  intro a ha
  cases ha

namespace ScoreOptions

theorem ofStrategy_eq {role : ScoreRole} {s : Strategy} {o : ScoreOptions}
    (h : ofStrategy role s = .ok o) : o = ⟨role, some s⟩ := by
  unfold ofStrategy at h
  split at h
  · exact (Except.ok.inj h).symm
  · cases h

theorem typed_ofStrategy {role : ScoreRole} {s : Strategy} {o : ScoreOptions} (hs : s.Typed)
    (h : ofStrategy role s = .ok o) : o.Typed := by
  rw [ofStrategy_eq h]
  intro s' hm
  cases hm
  exact hs

theorem typed_of {role : ScoreRole} {a : Argument} {o : ScoreOptions}
    (ha : ∀ s, a = .made (.strategy s) → s.Typed) (h : ScoreOptions.of role a = .ok o) :
    o.Typed := by
  unfold ScoreOptions.of at h
  split at h
  · cases h
    intro s hm
    cases hm
  · exact typed_ofStrategy (ha _ rfl) h
  · cases h

/-- What a clause takes for its score is what it is handed, so it is in order if that is. -/
theorem typed_forClause {σ : Type} {role : ScoreRole} {narrow : Strategy → Option σ}
    (widen : σ → Adjustment) {a : Argument} {score : Option (ScoreOf σ)}
    (hn : ∀ s t, narrow s = some t → s = .adjustment (widen t))
    (ha : ∀ o, a = .made (.score o) → ScoreOptions.Typed o)
    (h : forClause role narrow a = .ok score) :
    ∀ o ∈ score, ∀ t ∈ o.strategy, (widen t).Typed := by
  unfold forClause at h
  split at h
  · cases h
    intro o ho
    cases ho
  · cases h
    intro o ho t ht
    cases ho
    cases ht
  · rename_i given s
    split at h
    · rename_i t hs
      cases h
      intro o ho t' ht
      cases ho
      cases ht
      exact ha _ rfl s rfl _ (hn s t hs)
    · cases h
  · cases h

theorem typed_forSearch {a : Argument} {score : Option AdjustmentOptions}
    (ha : ∀ o, a = .made (.score o) → ScoreOptions.Typed o) (h : forSearch a = .ok score) :
    ∀ o ∈ score, o.Typed := by
  unfold forSearch at h
  refine typed_forClause id ?_ ha h
  intro s t hs
  cases s with
  | adjustment a => cases hs; rfl
  | embedded e => cases hs

theorem typed_forAutocomplete {a : Argument} {score : Option RescalingOptions}
    (ha : ∀ o, a = .made (.score o) → ScoreOptions.Typed o)
    (h : forAutocomplete a = .ok score) :
    ∀ o ∈ score, ∀ r ∈ o.strategy, (Adjustment.rescaling r).Typed := by
  unfold forAutocomplete at h
  refine typed_forClause Adjustment.rescaling ?_ ha h
  intro s t hs
  match s, hs with
  | .adjustment (.rescaling r), hs => cases hs; rfl

theorem typed_boost {role : ScoreRole} {factor : Number} {o : ScoreOptions}
    (h : boost role (.ofNumber factor) = .ok o) : o.Typed := by
  obtain ⟨d, hd, h⟩ := Outcome.bind_eq_ok h
  rw [Argument.required_ofNumber] at hd
  cases hd
  exact typed_ofStrategy (Strategy.typed_adjustment (.factor factor _)) h

theorem typed_boostPath {role : ScoreRole} {path : Argument} {fallback : Number} {o : ScoreOptions}
    (h : boostPath role path (.ofNumber fallback) = .ok o) : o.Typed := by
  obtain ⟨field, _, h⟩ := Outcome.bind_eq_ok h
  rw [Argument.datum_ofNumber] at h
  exact typed_ofStrategy (Strategy.typed_adjustment (.field field fallback)) h

theorem typed_constant {role : ScoreRole} {value : Number} {o : ScoreOptions}
    (h : constant role (.ofNumber value) = .ok o) : o.Typed := by
  obtain ⟨d, hd, h⟩ := Outcome.bind_eq_ok h
  rw [Argument.required_ofNumber] at hd
  cases hd
  exact typed_ofStrategy (Strategy.typed_adjustment (.constant value)) h

theorem typed_function {role : ScoreRole} {expression : Document} {o : ScoreOptions}
    (h : function role (.ofValue (.object expression)) = .ok o) : o.Typed := by
  obtain ⟨d, hd, h⟩ := Outcome.bind_eq_ok h
  rw [Argument.required_ofDocument] at hd
  cases hd
  exact typed_ofStrategy (Strategy.typed_adjustment (.function expression)) h

theorem typed_embedded {aggregate outerScope : Argument} {o : ScoreOptions}
    (h : embedded aggregate outerScope = .ok o) : o.Typed := by
  obtain ⟨e, _, h⟩ := Outcome.bind_eq_ok h
  exact typed_ofStrategy (Strategy.typed_embedded e) h

end ScoreOptions

/-! ## Clauses -/

namespace Matching

theorem typed_ofFuzzy (o : FuzzyOptions) : Typed (.ofFuzzy (.made (.fuzzy o))) := by
  intro slot hs
  cases hs
  exact ⟨o, rfl⟩

theorem typed_ofSynonyms {a : Argument} {m : Matching} (h : ofSynonyms a = .ok m) : m.Typed := by
  unfold ofSynonyms at h
  split at h
  · split at h
    · cases h
    · cases h
      intro slot hs
      cases hs
  · cases h

theorem typed_optional {a : Argument} {matching : Option Matching}
    (ha : ∀ m, a = .made (.matching m) → m.Typed) (h : optional a = .ok matching) :
    ∀ m ∈ matching, m.Typed := by
  unfold optional at h
  split at h
  · cases h
    intro m hm
    cases hm
  · cases h
    intro m hm
    cases hm
    exact ha _ rfl
  · cases h

end Matching

namespace TextClause

theorem typed_of {query path matching score : Argument} {c : TextClause}
    (hm : ∀ m, matching = .made (.matching m) → m.Typed)
    (hs : ∀ o, score = .made (.score o) → ScoreOptions.Typed o)
    (h : TextClause.of query path matching score = .ok c) : LeafClause.Typed (.text c) := by
  obtain ⟨query', _, h⟩ := Outcome.bind_eq_ok h
  obtain ⟨path', _, h⟩ := Outcome.bind_eq_ok h
  obtain ⟨matching', hm', h⟩ := Outcome.bind_eq_ok h
  obtain ⟨score', hs', h⟩ := Outcome.bind_eq_ok h
  cases h
  refine ⟨?_, ?_, ScoreOptions.typed_forSearch hs hs'⟩
  · intro slot hslot
    obtain ⟨m, hmatching, hoptions⟩ := Option.bind_eq_some_iff.mp hslot
    exact Matching.typed_optional hm hm' m hmatching slot hoptions
  · intro g hg
    cases hg

theorem typed_fuzzy {query path score : Argument} {options : Option FuzzyOptions} {c : TextClause}
    (hs : ∀ o, score = .made (.score o) → ScoreOptions.Typed o)
    (h : TextClause.fuzzy query path (options.elim .null fun o => .made (.fuzzy o)) score = .ok c) :
    LeafClause.Typed (.text c) := by
  have typed (o : FuzzyOptions) (m : Matching)
      (hm : Argument.made (.matching (.ofFuzzy (.made (.fuzzy o)))) = .made (.matching m)) :
      m.Typed := by
    cases hm
    exact Matching.typed_ofFuzzy o
  -- Options that are left out count as false, and options that are given never do.
  cases options with
  | none => exact typed_of (typed .standard) hs h
  | some o => exact typed_of (typed o) hs h

theorem typed_withSynonyms {query path synonyms score : Argument} {c : TextClause}
    (hs : ∀ o, score = .made (.score o) → ScoreOptions.Typed o)
    (h : TextClause.withSynonyms query path synonyms score = .ok c) :
    LeafClause.Typed (.text c) := by
  obtain ⟨m, hm, h⟩ := Outcome.bind_eq_ok h
  refine typed_of ?_ hs h
  intro m' h'
  cases h'
  exact Matching.typed_ofSynonyms hm

end TextClause

theorem PhraseClause.typed_of {query path score slop : Argument} {c : PhraseClause}
    (hs : ∀ o, score = .made (.score o) → ScoreOptions.Typed o)
    (h : PhraseClause.of query path score slop = .ok c) : LeafClause.Typed (.phrase c) := by
  obtain ⟨query', _, h⟩ := Outcome.bind_eq_ok h
  obtain ⟨path', _, h⟩ := Outcome.bind_eq_ok h
  obtain ⟨slop', _, h⟩ := Outcome.bind_eq_ok h
  obtain ⟨score', hs', h⟩ := Outcome.bind_eq_ok h
  cases h
  refine ⟨?_, ?_, ScoreOptions.typed_forSearch hs hs'⟩
  · intro slot hslot
    cases hslot
  · intro g hg
    cases hg

theorem AutocompleteClause.typed_of {query path tokenOrder score : Argument}
    {options : Option FuzzyOptions} {c : AutocompleteClause}
    (hs : ∀ o, score = .made (.score o) → ScoreOptions.Typed o)
    (h : AutocompleteClause.of query path tokenOrder
      (options.elim .null fun o => .made (.fuzzy o)) score = .ok c) :
    LeafClause.Typed (.autocomplete c) := by
  obtain ⟨query', _, h⟩ := Outcome.bind_eq_ok h
  obtain ⟨path', _, h⟩ := Outcome.bind_eq_ok h
  obtain ⟨order, _, h⟩ := Outcome.bind_eq_ok h
  obtain ⟨score', hs', h⟩ := Outcome.bind_eq_ok h
  cases h
  refine ⟨?_, ?_, ?_⟩
  · intro slot hslot
    cases options with
    | none => cases hslot
    | some o =>
      cases hslot
      exact ⟨o, rfl⟩
  · intro g hg
    cases hg
  · intro o ho a ha
    obtain ⟨p, hp, rfl⟩ := Option.map_eq_some_iff.mp ho
    obtain ⟨r, hr, rfl⟩ := Option.map_eq_some_iff.mp ha
    exact ScoreOptions.typed_forAutocomplete hs hs' p hp r hr

theorem GeoWithinClause.typed_of {geometry path score : Argument} {c : GeoWithinClause}
    (hg : ∀ s, geometry = .made (.shape s) → s.Annotated)
    (hs : ∀ o, score = .made (.score o) → ScoreOptions.Typed o)
    (h : GeoWithinClause.of geometry path score = .ok c) : LeafClause.Typed (.geoWithin c) := by
  obtain ⟨shape, hshape, h⟩ := Outcome.bind_eq_ok h
  obtain ⟨path', _, h⟩ := Outcome.bind_eq_ok h
  obtain ⟨score', hs', h⟩ := Outcome.bind_eq_ok h
  cases h
  refine ⟨?_, ?_, ScoreOptions.typed_forSearch hs hs'⟩
  · intro slot hslot
    cases hslot
  · intro g heq
    cases heq
    exact hg shape (Shape.of_eq hshape)

end DocSearch
