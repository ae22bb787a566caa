import DocSearch.Proofs.Query.Typed
import Mathlib.Data.List.Forall2

/-! # Polygons of pairs

The rings of a polygon may be told by their pairs, each of a latitude and a longitude. All of them
are drawn first and checked then, so what becomes of them is told by the first ring that cannot
bound a polygon. What is drawn has the same pairs in the same order, turned round. -/

namespace DocSearch

theorem Argument.ofItems_eq_map (items : List Value) : ofItems items = items.map ofValue := by
  induction items with
  | nil => rfl
  | cons v rest ih => rw [ofItems, ih, List.map_cons]

theorem Datum.sameItems_self {ds : List Datum} (h : ∀ d ∈ ds, d.same d = true) :
    sameItems ds ds = true := by
  induction ds with
  | nil => rfl
  | cons d rest ih =>
    obtain ⟨hd, hrest⟩ := List.forall_mem_cons.mp h
    rw [sameItems_cons, hd, ih hrest]
    rfl

namespace Polygon

variable {ring : List (Number × Number)} {rings : List (List (Number × Number))}

/-- Whether two pairs are of equal numbers. -/
def samePair (a b : Number × Number) : Bool := a.1.same b.1 && a.2.same b.2

/-- A ring that can bound a polygon has at least four pairs, and the first equals the last. -/
structure Bounds (ring : List (Number × Number)) : Prop where
  length : 4 ≤ ring.length
  closed : ∃ first last, ring.head? = some first ∧ ring.getLast? = some last ∧
    samePair first last = true

/-- What is reported of a ring that cannot bound a polygon. -/
def offence (ring : List (Number × Number)) : Fault :=
  if ring.length < 4 then .shortRing ring.length else .openRing

/-- Rings of pairs as they are handed over. -/
def told (rings : List (List (Number × Number))) : Argument :=
  .list (rings.map fun ring => .list (ring.map .ofPair))

/-- The line through the points of the pairs. -/
def drawnLine (ring : List (Number × Number)) : LineString := ⟨(ring.map pairPoint).map Point.datum⟩

/-- Rings of pairs as they are written, the longitude first. -/
def written (rings : List (List (Number × Number))) : Value :=
  .list (rings.map fun ring =>
    .list (ring.map fun pair => .list [.ofNumber pair.2, .ofNumber pair.1]))

/-- A position turned round. -/
def turned : Value → Value
  | .list [first, second] => .list [second, first]
  | v => v

/-- Written rings with every position turned round. -/
def turnedAll : Value → Value
  | .list rings => .list (rings.map fun
    | .list positions => .list (positions.map turned)
    | v => v)
  | v => v

/-! ## Checking -/

theorem same_pairPoint (a b : Number × Number) :
    (pairPoint a).datum.same (pairPoint b).datum = samePair a b := by
  simp [pairPoint, Point.datum, geoDatum, samePair]

theorem isClosed_drawnLine (hlength : 4 ≤ ring.length) : (drawnLine ring).isClosed = true
    ↔ ∃ first last, ring.head? = some first ∧ ring.getLast? = some last ∧
      samePair first last = true := by
  match ring with
  | first :: second :: rest =>
    have hlast : (((second :: rest).map pairPoint).map Point.datum).getLast (by simp)
        = (pairPoint ((second :: rest).getLast (List.cons_ne_nil _ _))).datum := by
      rw [List.getLast_map, List.getLast_map]
    have hclosed : (drawnLine (first :: second :: rest)).isClosed
        = samePair first ((second :: rest).getLast (List.cons_ne_nil _ _)) := by
      rw [← same_pairPoint, ← hlast]
      rfl
    have hend : (first :: second :: rest).getLast?
        = some ((second :: rest).getLast (List.cons_ne_nil _ _)) := by
      rw [List.getLast?_cons_cons, List.getLast?_eq_some_getLast]
    rw [hclosed]
    constructor
    · intro h
      exact ⟨first, _, rfl, hend, h⟩
    · rintro ⟨a, b, ha, hb, h⟩
      cases ha
      rw [hend] at hb
      cases hb
      exact h

theorem length_drawnLine : (drawnLine ring).points.length = ring.length := by
  rw [drawnLine, List.length_map, List.length_map]

theorem checkRing_drawnLine : checkRing (drawnLine ring) =
    if ring.length < 4 then .error (.shortRing ring.length)
    else if (drawnLine ring).isClosed then .ok (drawnLine ring) else .error .openRing := by
  unfold checkRing
  rw [length_drawnLine]
  rfl

theorem checkRing_of_bounds (h : Bounds ring) :
    checkRing (drawnLine ring) = .ok (drawnLine ring) := by
  have hclosed : (drawnLine ring).isClosed = true := (isClosed_drawnLine h.length).mpr h.closed
  rw [checkRing_drawnLine, if_neg (Nat.not_lt.mpr h.length), if_pos hclosed]

theorem checkRing_of_not_bounds (h : ¬ Bounds ring) :
    checkRing (drawnLine ring) = .error (offence ring) := by
  rw [checkRing_drawnLine, offence]
  by_cases hshort : ring.length < 4
  · rw [if_pos hshort, if_pos hshort]
  · have hlength : 4 ≤ ring.length := Nat.not_lt.mp hshort
    have hopen : ¬ (drawnLine ring).isClosed = true := fun hc =>
      h ⟨hlength, (isClosed_drawnLine hlength).mp hc⟩
    rw [if_neg hshort, if_neg hshort, if_neg hopen]

theorem checkRings_of_bounds (h : ∀ ring ∈ rings, Bounds ring) :
    checkRings (rings.map drawnLine) = .ok (rings.map drawnLine) := by
  induction rings with
  | nil => rfl
  | cons ring rest ih =>
    obtain ⟨hring, hrest⟩ := List.forall_mem_cons.mp h
    rw [List.map_cons, checkRings, checkRing_of_bounds hring, ih hrest]
    rfl

/-- The rings before the first that cannot bound a polygon are passed over. -/
theorem checkRings_of_first {before after : List (List (Number × Number))}
    (hbefore : ∀ ring ∈ before, Bounds ring) (h : ¬ Bounds ring) :
    checkRings ((before ++ ring :: after).map drawnLine) = .error (offence ring) := by
  induction before with
  | nil =>
    rw [List.nil_append, List.map_cons, checkRings, checkRing_of_not_bounds h]
    rfl
  | cons first before ih =>
    obtain ⟨hfirst, hbefore⟩ := List.forall_mem_cons.mp hbefore
    rw [List.cons_append, List.map_cons, checkRings, checkRing_of_bounds hfirst, ih hbefore]
    rfl

/-- All the lines are drawn; only their checks can fail. -/
theorem ofCoordinates_told : ofCoordinates (told rings) = ofRings (rings.map drawnLine) := by
  have hitems : (told rings).items = .ok (rings.map fun ring => .list (ring.map .ofPair)) := rfl
  rw [ofCoordinates, hitems]
  change (rings.map _).mapM lineOf >>= ofRings = _
  rw [Outcome.mapM_map_ok lineOf_pairs]
  rfl

theorem ofCoordinates_of_bounds (hne : rings ≠ []) (h : ∀ ring ∈ rings, Bounds ring) :
    ofCoordinates (told rings) = .ok ⟨rings.map drawnLine⟩ := by
  have hsome : (rings.map drawnLine).isEmpty = false := by simpa using hne
  rw [ofCoordinates_told, ofRings, hsome, checkRings_of_bounds h]
  rfl

theorem ofCoordinates_of_first {before after : List (List (Number × Number))}
    (hbefore : ∀ ring ∈ before, Bounds ring) (h : ¬ Bounds ring) :
    ofCoordinates (told (before ++ ring :: after)) = .error (offence ring) := by
  have hsome : ((before ++ ring :: after).map drawnLine).isEmpty = false := by simp
  rw [ofCoordinates_told, ofRings, hsome, checkRings_of_first hbefore h]
  rfl

/-! ## Writing -/

theorem coordinates_pairPoint (pair : Number × Number) : Datum.coordinates (pairPoint pair).datum
    = .ok (.list [.ofNumber pair.2, .ofNumber pair.1]) :=
  Datum.value_ofValue (.list [.ofNumber pair.2, .ofNumber pair.1])

theorem coordinates_drawnLine (ring : List (Number × Number)) : (drawnLine ring).coordinates
    = .ok (.list (ring.map fun pair => .list [.ofNumber pair.2, .ofNumber pair.1])) := by
  have hpoints : (drawnLine ring).points = ring.map fun pair => (pairPoint pair).datum :=
    List.map_map
  rw [LineString.coordinates, coordinatesOfAll, hpoints, Outcome.mapM_map_ok coordinates_pairPoint]
  rfl

theorem coordinates_drawn :
    Polygon.coordinates ⟨rings.map drawnLine⟩ = .ok (written rings) := by
  rw [Polygon.coordinates, coordinatesOfAll, Outcome.mapM_map_ok coordinates_drawnLine]
  rfl

theorem ofValue_turned (pair : Number × Number) :
    Argument.ofValue (turned (.list [.ofNumber pair.2, .ofNumber pair.1])) = .ofPair pair := rfl

theorem ofValue_turnedAll_written : Argument.ofValue (turnedAll (written rings)) = told rings := by
  simp only [written, turnedAll, told, Argument.ofValue, Argument.ofItems_eq_map, List.map_map,
    Function.comp_def, ofValue_turned]

theorem same_drawn (h : ∀ ring ∈ rings, ∀ pair ∈ ring, pair.1.Defined ∧ pair.2.Defined) :
    (Polygon.datum ⟨rings.map drawnLine⟩).same (Polygon.datum ⟨rings.map drawnLine⟩) = true := by
  have hline : ∀ ring ∈ rings, (drawnLine ring).datum.same (drawnLine ring).datum = true := by
    intro ring hring
    rw [LineString.datum, geoDatum, Datum.same_made, beq_self_eq_true, Bool.true_and]
    refine Datum.sameItems_self fun d hd => ?_
    obtain ⟨point, hpoint, rfl⟩ := List.mem_map.mp hd
    obtain ⟨pair, hpair, rfl⟩ := List.mem_map.mp hpoint
    obtain ⟨hlatitude, hlongitude⟩ := h ring hring pair hpair
    rw [same_pairPoint, samePair, hlatitude.same, hlongitude.same]
    rfl
  rw [Polygon.datum, geoDatum, Datum.same_made, beq_self_eq_true, Bool.true_and]
  refine Datum.sameItems_self fun d hd => ?_
  obtain ⟨line, hm, rfl⟩ := List.mem_map.mp hd
  obtain ⟨ring, hring, rfl⟩ := List.mem_map.mp hm
  exact hline ring hring

/-! ## What becomes of rings -/

theorem exists_first (h : ¬ ∀ ring ∈ rings, Bounds ring) : ∃ before ring after,
    rings = before ++ ring :: after ∧ (∀ r ∈ before, Bounds r) ∧ ¬ Bounds ring := by
  induction rings with
  | nil => exact absurd (fun _ hm => (List.not_mem_nil hm).elim) h
  | cons first rest ih =>
    by_cases hfirst : Bounds first
    · have hrest : ¬ ∀ ring ∈ rest, Bounds ring := fun hrest =>
        h (List.forall_mem_cons.mpr ⟨hfirst, hrest⟩)
      obtain ⟨before, ring, after, rfl, hbefore, hring⟩ := ih hrest
      exact ⟨first :: before, ring, after, rfl, List.forall_mem_cons.mpr ⟨hfirst, hbefore⟩, hring⟩
    · exact ⟨[], first, rest, rfl, fun _ hm => (List.not_mem_nil hm).elim, hfirst⟩

theorem kind_offence : (offence ring).kind = .value := by
  unfold offence
  split <;> rfl

theorem ofCoordinates_cases (rings : List (List (Number × Number))) :
    (rings ≠ [] ∧ (∀ ring ∈ rings, Bounds ring) ∧
      ofCoordinates (told rings) = .ok ⟨rings.map drawnLine⟩) ∨
    (¬ (rings ≠ [] ∧ ∀ ring ∈ rings, Bounds ring) ∧
      ∃ fault, ofCoordinates (told rings) = .error fault ∧ fault.kind = .value) := by
  by_cases hne : rings = []
  · subst hne
    exact .inr ⟨fun h => h.1 rfl, .noRings, rfl, rfl⟩
  · by_cases hall : ∀ ring ∈ rings, Bounds ring
    · exact .inl ⟨hne, hall, ofCoordinates_of_bounds hne hall⟩
    · obtain ⟨before, ring, after, rfl, hbefore, hring⟩ := exists_first hall
      exact .inr ⟨fun h => hall h.2, _, ofCoordinates_of_first hbefore hring, kind_offence⟩

/-- What becomes of the rings of a polygon. -/
structure Judged (rings : List (List (Number × Number))) : Prop where
  succeeds_iff : (∃ p, ofCoordinates (told rings) = .ok p)
    ↔ rings ≠ [] ∧ ∀ ring ∈ rings, Bounds ring
  kind : ∀ fault, ofCoordinates (told rings) = .error fault → fault.kind = .value
  none : rings = [] → ofCoordinates (told rings) = .error .noRings
  /-- The first ring that cannot bound a polygon is reported. -/
  first : ∀ before ring after, rings = before ++ ring :: after → (∀ r ∈ before, Bounds r) →
    ¬ Bounds ring → ofCoordinates (told rings) = .error (offence ring)
  coordinates : ∀ p, ofCoordinates (told rings) = .ok p → p.coordinates = .ok (written rings)
  render : ∀ p, ofCoordinates (told rings) = .ok p →
    p.render = .ok (geoJson typeName (written rings))
  /-- What is written, turned round again, makes an equal polygon. -/
  again : ∀ p v, ofCoordinates (told rings) = .ok p → p.coordinates = .ok v →
    ∃ q, ofCoordinates (.ofValue (turnedAll v)) = .ok q ∧
      Definition.same (.shape (.polygon q)) (.shape (.polygon p)) = true

theorem eq_drawn {p : Polygon} (h : ofCoordinates (told rings) = .ok p) :
    p = ⟨rings.map drawnLine⟩ := by
  rcases ofCoordinates_cases rings with ⟨-, -, hok⟩ | ⟨-, fault, herror, -⟩
  · rw [hok] at h
    exact (Except.ok.inj h).symm
  · rw [herror] at h
    cases h

theorem judged (h : ∀ ring ∈ rings, ∀ pair ∈ ring, pair.1.Defined ∧ pair.2.Defined) :
    Judged rings where
  succeeds_iff := by
    rcases ofCoordinates_cases rings with ⟨hne, hall, hok⟩ | ⟨hnot, fault, herror, -⟩
    · exact iff_of_true ⟨_, hok⟩ ⟨hne, hall⟩
    · refine iff_of_false ?_ hnot
      rintro ⟨p, hok⟩
      rw [herror] at hok
      cases hok
  kind := by
    intro fault hf
    rcases ofCoordinates_cases rings with ⟨-, -, hok⟩ | ⟨-, other, herror, hkind⟩
    · rw [hok] at hf
      cases hf
    · rw [herror] at hf
      cases hf
      exact hkind
  none := by
    rintro rfl
    rfl
  first := by
    rintro before ring after rfl hbefore hring
    exact ofCoordinates_of_first hbefore hring
  coordinates := by
    intro p hp
    rw [eq_drawn hp]
    exact coordinates_drawn
  render := by
    intro p hp
    rw [eq_drawn hp, Polygon.render, coordinates_drawn]
    rfl
  again := by
    intro p v hp hv
    rw [eq_drawn hp, coordinates_drawn] at hv
    cases hv
    refine ⟨p, by rwa [ofValue_turnedAll_written], ?_⟩
    rw [eq_drawn hp]
    exact same_drawn h

end Polygon

namespace MultiPolygon

theorem polygonsOf_made (polygons : List Polygon) :
    polygonsOf (polygons.map fun p => .made (.shape (.polygon p))) = .ok polygons := by
  induction polygons with
  | nil => rfl
  | cons p rest ih =>
    rw [List.map_cons, polygonsOf, ih]
    rfl

theorem of_made {polygons : List Polygon} (hne : polygons ≠ []) :
    MultiPolygon.of (.list (polygons.map fun p => .made (.shape (.polygon p))))
      = .ok ⟨polygons⟩ := by
  have hsome : (polygons.map fun p => Argument.made (.shape (.polygon p))).isEmpty = false := by
    simpa using hne
  change (if (polygons.map fun p => Argument.made (.shape (.polygon p))).isEmpty then _
    else (polygonsOf (polygons.map fun p => .made (.shape (.polygon p)))).map MultiPolygon.mk) = _
  rw [hsome, polygonsOf_made]
  rfl

theorem coordinates_drawn {regions : List (List (List (Number × Number)))} {polygons : List Polygon}
    (h : List.Forall₂ (fun rings p => Polygon.ofCoordinates (Polygon.told rings) = .ok p)
      regions polygons) :
    polygons.mapM Polygon.coordinates = .ok (regions.map Polygon.written) := by
  induction h with
  | nil => rfl
  | cons hp _ ih =>
    rw [List.mapM_cons, Polygon.eq_drawn hp, Polygon.coordinates_drawn, ih]
    rfl

end MultiPolygon

/-- Rings of pairs make a polygon if each of them bounds one, and what they make is written with the
same pairs; several such polygons are written one after the other. -/
theorem Polygon.rings_drawn_faithfully :
    (∀ rings : List (List (Number × Number)),
      (∀ ring ∈ rings, ∀ pair ∈ ring, pair.1.Defined ∧ pair.2.Defined) → Judged rings) ∧
    ∀ (regions : List (List (List (Number × Number)))) (polygons : List Polygon), regions ≠ [] →
      List.Forall₂ (fun rings p => ofCoordinates (told rings) = .ok p) regions polygons →
      ∃ m, MultiPolygon.of (.list (polygons.map fun p => .made (.shape (.polygon p)))) = .ok m ∧
        m.coordinates = .ok (.list (regions.map written)) ∧
        m.render = .ok (geoJson MultiPolygon.typeName (.list (regions.map written))) := by
  refine ⟨fun rings h => judged h, fun regions polygons hne h => ?_⟩
  have hpolygons : polygons ≠ [] := by
    rintro rfl
    cases h
    exact hne rfl
  have hcoordinates : MultiPolygon.coordinates ⟨polygons⟩ = .ok (.list (regions.map written)) := by
    rw [MultiPolygon.coordinates, coordinatesOfAll, MultiPolygon.coordinates_drawn h]
    rfl
  refine ⟨⟨polygons⟩, MultiPolygon.of_made hpolygons, hcoordinates, ?_⟩
  rw [MultiPolygon.render, hcoordinates]
  rfl

/-- A square with a triangular hole. The square ends at zeros of another kind than it begins at. -/
def Polygon.district : List (List (Number × Number)) :=
  [[(.whole 0, .whole 0), (.whole 0, .whole 9), (.whole 9, .whole 9), (.whole 9, .whole 0),
      (.flag false, .flag false)],
    [(.whole 2, .whole 2), (.whole 2, .whole 4), (.whole 4, .whole 2), (.whole 2, .whole 2)]]

theorem Polygon.district_drawn_faithfully : ∃ p m, ofCoordinates (told district) = .ok p ∧
    p.coordinates = .ok (written district) ∧
    MultiPolygon.of (.list [.made (.shape (.polygon p))]) = .ok m ∧
    m.coordinates = .ok (.list [written district]) := by
  obtain ⟨hrings, hregions⟩ := rings_drawn_faithfully
  have hdefined : ∀ ring ∈ district, ∀ pair ∈ ring, pair.1.Defined ∧ pair.2.Defined := by
    unfold Number.Defined
    decide
  have hjudged : Judged district := hrings district hdefined
  have hbounds : ∀ ring ∈ district, Bounds ring := by
    refine List.forall_mem_cons.mpr ⟨⟨by decide, _, _, rfl, rfl, rfl⟩, ?_⟩
    exact List.forall_mem_singleton.mpr ⟨by decide, _, _, rfl, rfl, rfl⟩
  obtain ⟨p, hp⟩ := hjudged.succeeds_iff.mpr ⟨List.cons_ne_nil _ _, hbounds⟩
  obtain ⟨m, hm, hcoordinates, -⟩ :=
    hregions [district] [p] (List.cons_ne_nil _ _) (.cons hp .nil)
  exact ⟨p, m, hp, hjudged.coordinates p hp, hm, hcoordinates⟩

end DocSearch
