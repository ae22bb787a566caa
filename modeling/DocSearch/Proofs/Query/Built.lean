import DocSearch.Proofs.Query.Typed

/-! # What arguments of the annotated types build

`Built` has one rule for each way of making a definition. An argument that is checked may be anything
at all, a definition among the arguments is built itself, and only what is kept unchecked has to be
of the type it is annotated with. Whatever is built is sound. -/

namespace DocSearch

/-- The definitions that are made of arguments of the annotated types. -/
inductive Definition.Built : Definition → Prop
  | point {latitude longitude : Number} {p : Point} :
      Point.of (.ofNumber latitude) (.ofNumber longitude) = .ok p → Built (.point p)
  | line {points : List Point} {l : LineString} : (∀ p ∈ points, Built (.point p)) →
      LineString.of (.list (points.map fun p => .made (.point p))) = .ok l → Built (.lineString l)
  | polygon {rings : List Argument} {p : Polygon} : (∀ d, .made d ∈ rings → Built d) →
      Polygon.of (.list rings) = .ok p → Built (.shape (.polygon p))
  | polygonOfCoordinates {rings : List (List (Number × Number))} {p : Polygon} :
      Polygon.ofCoordinates (.list (rings.map fun ring => .list (ring.map .ofPair))) = .ok p →
      Built (.shape (.polygon p))
  | multiPolygon {polygons : List Argument} {m : MultiPolygon} :
      (∀ d, .made d ∈ polygons → Built d) → MultiPolygon.of (.list polygons) = .ok m →
      Built (.shape (.multiPolygon m))
  | box {bottomLeft topRight : Argument} {b : Box} : (∀ d, bottomLeft = .made d → Built d) →
      (∀ d, topRight = .made d → Built d) → Box.of bottomLeft topRight = .ok b →
      Built (.shape (.box b))
  | circle {center radius : Argument} {c : Circle} : (∀ d, center = .made d → Built d) →
      Circle.of center radius = .ok c → Built (.shape (.circle c))
  | fuzzy {maxEdits prefixLength maxExpansions : Argument} {o : FuzzyOptions} :
      FuzzyOptions.of maxEdits prefixLength maxExpansions = .ok o → Built (.fuzzy o)
  | boost {value path : Argument} {fallback : Number} {b : BoostScore} :
      (value = .null ∨ ∃ factor, value = .ofNumber factor) →
      BoostScore.of value path (.ofNumber fallback) = .ok b → Built (.strategy (.boost b))
  | constant (value : Number) : Built (.strategy (.constant (Argument.ofNumber value).datum))
  | function (expression : Document) :
      Built (.strategy (.function (Argument.ofValue (.object expression)).datum))
  | embedded {aggregate outerScope : Argument} {e : EmbeddedScore} :
      (∀ d, outerScope = .made d → Built d) → EmbeddedScore.of aggregate outerScope = .ok e →
      Built (.strategy (.embedded e))
  | options {role : ScoreRole} {strategy : Argument} {o : ScoreOptions} :
      (∀ d, strategy = .made d → Built d) → ScoreOptions.of role strategy = .ok o → Built (.score o)
  | boostOptions {role : ScoreRole} {factor : Number} {o : ScoreOptions} :
      ScoreOptions.boost role (.ofNumber factor) = .ok o → Built (.score o)
  | boostPathOptions {role : ScoreRole} {path : Argument} {fallback : Number} {o : ScoreOptions} :
      ScoreOptions.boostPath role path (.ofNumber fallback) = .ok o → Built (.score o)
  | constantOptions {role : ScoreRole} {value : Number} {o : ScoreOptions} :
      ScoreOptions.constant role (.ofNumber value) = .ok o → Built (.score o)
  | functionOptions {role : ScoreRole} {expression : Document} {o : ScoreOptions} :
      ScoreOptions.function role (.ofValue (.object expression)) = .ok o → Built (.score o)
  | embeddedOptions {aggregate outerScope : Argument} {o : ScoreOptions} :
      (∀ d, outerScope = .made d → Built d) →
      ScoreOptions.embedded aggregate outerScope = .ok o → Built (.score o)
  | fuzzyMatching {o : FuzzyOptions} :
      Built (.fuzzy o) → Built (.matching (.ofFuzzy (.made (.fuzzy o))))
  | synonymMatching {mapping : Argument} {m : Matching} :
      Matching.ofSynonyms mapping = .ok m → Built (.matching m)
  | text {query path matching score : Argument} {c : TextClause} :
      (∀ d, matching = .made d → Built d) → (∀ d, score = .made d → Built d) →
      TextClause.of query path matching score = .ok c → Built (.clause (.leaf (.text c)))
  | fuzzyText {query path score : Argument} {options : Option FuzzyOptions} {c : TextClause} :
      (∀ o ∈ options, Built (.fuzzy o)) → (∀ d, score = .made d → Built d) →
      TextClause.fuzzy query path (options.elim .null fun o => .made (.fuzzy o)) score = .ok c →
      Built (.clause (.leaf (.text c)))
  | synonymText {query path synonyms score : Argument} {c : TextClause} :
      (∀ d, score = .made d → Built d) →
      TextClause.withSynonyms query path synonyms score = .ok c → Built (.clause (.leaf (.text c)))
  | phrase {query path score slop : Argument} {c : PhraseClause} :
      (∀ d, score = .made d → Built d) → PhraseClause.of query path score slop = .ok c →
      Built (.clause (.leaf (.phrase c)))
  | autocomplete {query path tokenOrder score : Argument} {options : Option FuzzyOptions}
      {c : AutocompleteClause} :
      (∀ o ∈ options, Built (.fuzzy o)) → (∀ d, score = .made d → Built d) →
      AutocompleteClause.of query path tokenOrder
        (options.elim .null fun o => .made (.fuzzy o)) score = .ok c →
      Built (.clause (.leaf (.autocomplete c)))
  | geoWithin {geometry path score : Argument} {c : GeoWithinClause} :
      (∀ d, geometry = .made d → Built d) → (∀ d, score = .made d → Built d) →
      GeoWithinClause.of geometry path score = .ok c → Built (.clause (.leaf (.geoWithin c)))

def Definition.Sound : Definition → Prop
  | .point p => p.Annotated
  | .lineString l => l.Annotated
  | .shape s => s.Annotated
  | .strategy s => s.Typed
  | .score o => ScoreOptions.Typed o
  | .matching m => m.Typed
  | .clause (.leaf c) => c.Typed
  | _ => True

/-- What is made of arguments of the annotated types is sound. -/
theorem Definition.Built.sound {d : Definition} (h : d.Built) : d.Sound := by
  induction h with
  | point h => exact Point.annotated_of h
  | line _ h ih => exact LineString.annotated_of ih h
  | polygon _ h ih => exact Polygon.annotated_of (fun l hl => ih (.lineString l) hl) h
  | polygonOfCoordinates h => exact Polygon.annotated_ofCoordinates h
  | multiPolygon _ h ih =>
    exact MultiPolygon.annotated_of (fun p hp => ih (.shape (.polygon p)) hp) h
  | box _ _ h ihl ihr =>
    obtain ⟨p, hp, h⟩ := Outcome.bind_eq_ok h
    obtain ⟨q, hq, h⟩ := Outcome.bind_eq_ok h
    cases h
    exact ⟨ihl (.point p) (Box.cornerOf_eq hp), ihr (.point q) (Box.cornerOf_eq hq)⟩
  | circle _ h ih =>
    obtain ⟨p, hp, h⟩ := Outcome.bind_eq_ok h
    obtain ⟨radius, _, h⟩ := Outcome.bind_eq_ok h
    cases h
    exact ih (.point p) (Circle.centerOf_eq hp)
  | fuzzy => trivial
  | boost hv h => exact Strategy.typed_adjustment (BoostScore.typed_of hv h)
  | constant value =>
    rw [Argument.datum_ofNumber]
    exact Strategy.typed_adjustment (.constant value)
  | function expression =>
    rw [Argument.datum_ofValue]
    exact Strategy.typed_adjustment (.function expression)
  | embedded => exact Strategy.typed_embedded _
  | options _ h ih => exact ScoreOptions.typed_of (fun s hs => ih (.strategy s) hs) h
  | boostOptions h => exact ScoreOptions.typed_boost h
  | boostPathOptions h => exact ScoreOptions.typed_boostPath h
  | constantOptions h => exact ScoreOptions.typed_constant h
  | functionOptions h => exact ScoreOptions.typed_function h
  | embeddedOptions _ h _ => exact ScoreOptions.typed_embedded h
  | fuzzyMatching => exact Matching.typed_ofFuzzy _
  | synonymMatching h => exact Matching.typed_ofSynonyms h
  | text _ _ h ihm ihs =>
    exact TextClause.typed_of (fun m hm => ihm (.matching m) hm) (fun o ho => ihs (.score o) ho) h
  | fuzzyText _ _ h _ ih => exact TextClause.typed_fuzzy (fun o ho => ih (.score o) ho) h
  | synonymText _ h ih => exact TextClause.typed_withSynonyms (fun o ho => ih (.score o) ho) h
  | phrase _ h ih => exact PhraseClause.typed_of (fun o ho => ih (.score o) ho) h
  | autocomplete _ _ h _ ih =>
    exact AutocompleteClause.typed_of (fun o ho => ih (.score o) ho) h
  | geoWithin _ _ h ihg ihs =>
    exact GeoWithinClause.typed_of (fun s hs => ihg (.shape s) hs) (fun o ho => ihs (.score o) ho) h

end DocSearch
