import DocSearch.Proofs.Datum.Same
import DocSearch.Proofs.Outcome
import DocSearch.Query.Clause

/-! # Parts of a clause are known by their documents

`Faithful` says of a kind of part that its parts render, and that their documents are equal if and
only if they are. It is shown of terms, shapes, fuzzy options and score strategies: what is left out
at its default can be told from what is there, a single text from a list of one, and each shape from
every other. -/

namespace DocSearch

open Value

/-- What satisfies `P` renders, and documents are equal exactly if what they are rendered from is. -/
def Faithful {α : Type} (P : α → Prop) (datum : α → Datum) (render : α → Except Fault Value) :
    Prop :=
  ∀ a b, P a → P b → ∃ v w, render a = .ok v ∧ render b = .ok w ∧
    v.same w = (datum a).same (datum b)

/-! ## Terms -/

theorem Terms.same_render (s t : Terms) : s.render.same t.render = decide (s = t) := by
  match s, t with
  | .single s, .single t =>
    rw [Terms.render, Terms.render, same_str, Bool.eq_iff_iff]
    simp
  | .single s, .many first rest =>
    simp [Terms.render, same_str_list]
  | .many first rest, .single t =>
    simp [Terms.render, same_list_str]
  | .many first rest, .many first' rest' =>
    rw [Terms.render, Terms.render, same_list_texts, Bool.eq_iff_iff]
    simp

theorem FieldPath.same_datum (p q : FieldPath) :
    p.datum.same q.datum = p.render.same q.render := by
  simp [FieldPath.datum, Datum.ofDocument, Terms.parts, Value.same, FieldPath.render]

/-! ## Shapes -/

namespace Faithful

variable {α : Type} {P : α → Prop} {datum : α → Datum} {render : α → Except Fault Value}

theorem ok (h : Faithful P datum render) {a : α} (ha : P a) : ∃ v, render a = .ok v := by
  obtain ⟨v, _, hv, _⟩ := h a a ha ha
  exact ⟨v, hv⟩

theorem mapM_ok (h : Faithful P datum render) {as : List α} (ha : ∀ a ∈ as, P a) :
    ∃ vs, as.mapM render = .ok vs := by
  induction as with
  | nil => exact ⟨[], rfl⟩
  | cons a as ih =>
    obtain ⟨v, hv⟩ := h.ok (ha a List.mem_cons_self)
    obtain ⟨vs, hvs⟩ := ih fun a' h' => ha a' (List.mem_cons_of_mem _ h')
    exact ⟨v :: vs, by rw [List.mapM_cons, hv, hvs]; rfl⟩

theorem mapM (h : Faithful P datum render) {as bs : List α} (ha : ∀ a ∈ as, P a)
    (hb : ∀ b ∈ bs, P b) : ∃ vs ws, as.mapM render = .ok vs ∧ bs.mapM render = .ok ws ∧
      (list vs).same (.list ws) = Datum.sameItems (as.map datum) (bs.map datum) := by
  induction as generalizing bs with
  | nil =>
    obtain ⟨ws, hws⟩ := h.mapM_ok hb
    refine ⟨[], ws, rfl, hws, ?_⟩
    cases bs with
    | nil => cases hws; simp [same_list]
    | cons b bs =>
      rw [List.mapM_cons] at hws
      obtain ⟨w, _, hws⟩ := Outcome.bind_eq_ok hws
      obtain ⟨ws', _, hws⟩ := Outcome.bind_eq_ok hws
      cases hws
      simp [same_list]
  | cons a as ih =>
    obtain ⟨v, hv⟩ := h.ok (ha a List.mem_cons_self)
    have ha' := fun a' h' => ha a' (List.mem_cons_of_mem _ h')
    cases bs with
    | nil =>
      obtain ⟨vs, hvs⟩ := h.mapM_ok ha'
      refine ⟨v :: vs, [], by rw [List.mapM_cons, hv, hvs]; rfl, rfl, ?_⟩
      simp [same_list]
    | cons b bs =>
      obtain ⟨v, w, hv, hw, hs⟩ := h a b (ha a List.mem_cons_self) (hb b List.mem_cons_self)
      obtain ⟨vs, ws, hvs, hws, hss⟩ := ih ha' fun b' h' => hb b' (List.mem_cons_of_mem _ h')
      refine ⟨v :: vs, w :: ws, by rw [List.mapM_cons, hv, hvs]; rfl,
        by rw [List.mapM_cons, hw, hws]; rfl, ?_⟩
      rw [same_list_cons, hs, hss, List.map_cons, List.map_cons, Datum.sameItems_cons]

/-- Coordinates of several things are faithful if those of each thing are. -/
theorem all (h : Faithful P datum render) :
    Faithful (fun as => ∀ a ∈ as, P a) (fun as => .list (as.map datum))
      (coordinatesOfAll render) := by
  intro as bs ha hb
  obtain ⟨vs, ws, hv, hw, hs⟩ := h.mapM ha hb
  refine ⟨.list vs, .list ws, by rw [coordinatesOfAll, hv]; rfl, by rw [coordinatesOfAll, hw]; rfl,
    ?_⟩
  rw [hs, Datum.same_list]

/-- A definition drawn from parts is told apart by its coordinates if the parts are. -/
theorem drawn {parts : α → List Datum} {coordinates : α → Except Fault Value} (typeName : String)
    (h : Faithful P (fun a => .list (parts a)) coordinates) :
    Faithful P (fun a => geoDatum typeName (parts a) (coordinates a)) coordinates := by
  intro a b ha hb
  obtain ⟨v, w, hv, hw, hs⟩ := h a b ha hb
  refine ⟨v, w, hv, hw, ?_⟩
  simp only [hs, geoDatum, Datum.same_made, Datum.same_list, beq_self_eq_true, Bool.true_and]

end Faithful

theorem same_geoJson (s t : String) (v w : Value) :
    (geoJson s v).same (geoJson t w) = (s == t && v.same w) := by
  rw [geoJson, geoJson, same_object_cons (by simp [Entries.keys]), same_str, same_object_single]
  simp

/-- A definition is told apart by its document if it is by its coordinates. -/
theorem Faithful.geoJson {α : Type} {P : α → Prop} {datum : α → Datum}
    {coordinates : α → Except Fault Value} (typeName : String) (h : Faithful P datum coordinates) :
    Faithful P datum fun a => (coordinates a).map (geoJson typeName) := by
  intro a b ha hb
  obtain ⟨v, w, hv, hw, hs⟩ := h a b ha hb
  refine ⟨_, _, congrArg _ hv, congrArg _ hw, ?_⟩
  rw [same_geoJson, hs]
  simp

/-- The coordinates are numbers. -/
def Point.Annotated (p : Point) : Prop :=
  ∃ latitude longitude : Number, p = ⟨.ofNumber latitude, .ofNumber longitude⟩

/-- The points are points. -/
def LineString.Annotated (l : LineString) : Prop :=
  ∀ d ∈ l.points, ∃ p : Point, p.Annotated ∧ d = p.datum

def Polygon.Annotated (p : Polygon) : Prop := ∀ ring ∈ p.rings, ring.Annotated

def MultiPolygon.Annotated (m : MultiPolygon) : Prop := ∀ p ∈ m.polygons, p.Annotated

def Shape.Annotated : Shape → Prop
  | .circle c => c.center.Annotated
  | .box b => b.bottomLeft.Annotated ∧ b.topRight.Annotated
  | .polygon p => p.Annotated
  | .multiPolygon m => m.Annotated

theorem Point.faithful_coordinates :
    Faithful Point.Annotated Point.datum Point.coordinates := by
  refine Faithful.drawn Point.typeName ?_
  rintro _ _ ⟨lat, lon, rfl⟩ ⟨lat', lon', rfl⟩
  have coordinates (lat lon : Number) : Point.coordinates ⟨.ofNumber lat, .ofNumber lon⟩
      = .ok (.list [.ofNumber lon, .ofNumber lat]) :=
    Datum.value_ofValue (.list [.ofNumber lon, .ofNumber lat])
  refine ⟨_, _, coordinates lat lon, coordinates lat' lon', ?_⟩
  rw [Datum.same_list, same_list_cons, same_list_cons, same_ofNumber, same_ofNumber]
  simp [same_list, Bool.and_comm]

theorem Point.faithful : Faithful Point.Annotated Point.datum Point.render :=
  Point.faithful_coordinates.geoJson Point.typeName

theorem LineString.faithful_coordinates :
    Faithful LineString.Annotated LineString.datum LineString.coordinates := by
  refine Faithful.drawn LineString.typeName ?_
  have points : Faithful (fun d => ∃ p : Point, p.Annotated ∧ d = p.datum) id
      Datum.coordinates := by
    rintro _ _ ⟨p, hp, rfl⟩ ⟨q, hq, rfl⟩
    exact Point.faithful_coordinates p q hp hq
  intro l m hl hm
  have h := points.all l.points m.points hl hm
  simp only [List.map_id] at h
  exact h

theorem Polygon.faithful_coordinates :
    Faithful Polygon.Annotated Polygon.datum Polygon.coordinates :=
  Faithful.drawn Polygon.typeName fun p q hp hq =>
    LineString.faithful_coordinates.all p.rings q.rings hp hq

theorem MultiPolygon.faithful_coordinates :
    Faithful MultiPolygon.Annotated MultiPolygon.datum MultiPolygon.coordinates :=
  Faithful.drawn MultiPolygon.typeName fun m n hm hn =>
    Polygon.faithful_coordinates.all m.polygons n.polygons hm hn

theorem Box.faithful :
    Faithful (fun b => b.bottomLeft.Annotated ∧ b.topRight.Annotated) Box.datum Box.render := by
  intro b c hb hc
  obtain ⟨v, w, hv, hw, hs⟩ := Point.faithful _ _ hb.1 hc.1
  obtain ⟨v', w', hv', hw', hs'⟩ := Point.faithful _ _ hb.2 hc.2
  refine ⟨_, _, by rw [Box.render, hv, hv']; rfl, by rw [Box.render, hw, hw']; rfl, ?_⟩
  rw [same_object_cons (by simp [Entries.keys]), same_object_single, hs, hs', Box.datum, Box.datum,
    Datum.ofDocument, Datum.ofDocument, Datum.same_made]
  simp

theorem Circle.faithful :
    Faithful (fun c => c.center.Annotated) Circle.datum Circle.render := by
  intro c d hc hd
  obtain ⟨v, w, hv, hw, hs⟩ := Point.faithful _ _ hc hd
  refine ⟨_, _, by rw [Circle.render, hv]; rfl, by rw [Circle.render, hw]; rfl, ?_⟩
  rw [same_object_cons (by simp [Entries.keys]), same_object_single, same_ofNumber, hs, Circle.datum,
    Circle.datum, Datum.ofDocument, Datum.ofDocument, Datum.same_made]
  simp

theorem Polygon.faithful : Faithful Polygon.Annotated Polygon.datum Polygon.render :=
  Polygon.faithful_coordinates.geoJson Polygon.typeName

theorem MultiPolygon.faithful :
    Faithful MultiPolygon.Annotated MultiPolygon.datum MultiPolygon.render :=
  MultiPolygon.faithful_coordinates.geoJson MultiPolygon.typeName

/-- A document under a key tells apart what the document does. -/
theorem Faithful.under {α : Type} {P : α → Prop} {datum : α → Datum}
    {render : α → Except Fault Value} (key : String) (h : Faithful P datum render) :
    Faithful P datum fun a => (render a).map fun v => .object [(key, v)] := by
  intro a b ha hb
  obtain ⟨v, w, hv, hw, hs⟩ := h a b ha hb
  refine ⟨_, _, congrArg _ hv, congrArg _ hw, ?_⟩
  rw [same_object_single, hs]
  simp

/-- Documents under different keys are different. -/
theorem entries_apart {k l : String} (h : k ≠ l) {x y : Except Fault Value} {d e : Datum}
    (hx : ∃ v, x = .ok v) (hy : ∃ w, y = .ok w) (hd : d.same e = false) :
    ∃ v w, (x.map fun v => Value.object [(k, v)]) = .ok v ∧
      (y.map fun w => Value.object [(l, w)]) = .ok w ∧ v.same w = d.same e := by
  obtain ⟨v, rfl⟩ := hx
  obtain ⟨w, rfl⟩ := hy
  refine ⟨_, _, rfl, rfl, ?_⟩
  rw [same_object_single, hd, beq_eq_false_iff_ne.mpr h, Bool.false_and]

namespace Shape

/-- The region under its key. -/
def entry (s : Shape) : Except Fault Value := s.render.map fun v => .object [(s.key, v)]

theorem exists_render {s : Shape} (h : s.Annotated) : ∃ v, s.render = .ok v := by
  cases s with
  | circle c => exact Circle.faithful.ok h
  | box b => exact Box.faithful.ok h
  | polygon p => exact Polygon.faithful.ok h
  | multiPolygon m => exact MultiPolygon.faithful.ok h

theorem names : Circle.typeName = "Circle" ∧ Box.typeName = "Box" ∧
    Polygon.typeName = "Polygon" ∧ MultiPolygon.typeName = "MultiPolygon" := ⟨rfl, rfl, rfl, rfl⟩

theorem same_datum_of_ne {s t : Shape} (h : s.typeName ≠ t.typeName) :
    s.datum.same t.datum = false := by
  have made (s : Shape) : ∃ parts d c, s.datum = .made s.typeName parts d c := by
    cases s <;> exact ⟨_, _, _, rfl⟩
  obtain ⟨_, _, _, hs⟩ := made s
  obtain ⟨_, _, _, ht⟩ := made t
  rw [hs, ht, Datum.same_made, beq_eq_false_iff_ne.mpr h, Bool.false_and]

/-- The two shapes that share a key differ in the type names of their documents. -/
theorem geometries_apart {s t : String} (h : s ≠ t) {x y : Except Fault Value} {d e : Datum}
    (hx : ∃ v, x.map (geoJson s) = .ok v) (hy : ∃ w, y.map (geoJson t) = .ok w)
    (hd : d.same e = false) :
    ∃ v w, ((x.map (geoJson s)).map fun v => Value.object [("geometry", v)]) = .ok v ∧
      ((y.map (geoJson t)).map fun w => Value.object [("geometry", w)]) = .ok w ∧
      v.same w = d.same e := by
  obtain ⟨v, hv⟩ := hx
  obtain ⟨w, hw⟩ := hy
  refine ⟨_, _, by rw [hv]; rfl, by rw [hw]; rfl, ?_⟩
  obtain ⟨_, _, rfl⟩ := Outcome.map_eq_ok hv
  obtain ⟨_, _, rfl⟩ := Outcome.map_eq_ok hw
  rw [same_object_single, same_geoJson, hd, beq_eq_false_iff_ne.mpr h, Bool.false_and,
    Bool.and_false]

theorem faithful : Faithful Shape.Annotated Shape.datum Shape.entry := by
  intro s t hs ht
  have hs' := exists_render hs
  have ht' := exists_render ht
  match s, t with
  | .circle c, .circle d => exact Circle.faithful.under "circle" c d hs ht
  | .box b, .box c => exact Box.faithful.under "box" b c hs ht
  | .polygon p, .polygon q => exact Polygon.faithful.under "geometry" p q hs ht
  | .multiPolygon m, .multiPolygon n => exact MultiPolygon.faithful.under "geometry" m n hs ht
  | .polygon p, .multiPolygon m =>
    exact geometries_apart (by decide) hs' ht' (same_datum_of_ne (by simp [typeName, names]))
  | .multiPolygon m, .polygon p =>
    exact geometries_apart (by decide) hs' ht' (same_datum_of_ne (by simp [typeName, names]))
  | .circle _, .box _ | .circle _, .polygon _ | .circle _, .multiPolygon _
  | .box _, .circle _ | .box _, .polygon _ | .box _, .multiPolygon _
  | .polygon _, .circle _ | .polygon _, .box _
  | .multiPolygon _, .circle _ | .multiPolygon _, .box _ =>
    exact entries_apart (by simp [key]) hs' ht' (same_datum_of_ne (by simp [typeName, names]))

end Shape

/-! ## Fuzzy options -/

theorem FuzzyOptions.render_eq_slots (o : FuzzyOptions) :
    o.render = .object (slots [("maxEdits", elided o.maxEdits defaultMaxEdits),
      ("prefixLength", elided o.prefixLength defaultPrefixLength),
      ("maxExpansions", elided o.maxExpansions defaultMaxExpansions)]) := by
  rw [render, unlessDefault_eq_slots, unlessDefault_eq_slots, unlessDefault_eq_slots,
    ← slots_append, ← slots_append]
  rfl

theorem FuzzyOptions.faithful :
    Faithful (fun slot => ∃ o : FuzzyOptions, slot = o.datum) id Datum.render := by
  rintro _ _ ⟨o, rfl⟩ ⟨p, rfl⟩
  refine ⟨o.render, p.render, rfl, rfl, ?_⟩
  rw [render_eq_slots, render_eq_slots, same_slots (by rfl) (by simp)]
  simp [sameSlot_elided, datum, Datum.ofDocument]

/-! ## Scores -/

/-- The boosts that the factories make. -/
inductive BoostScore.Factory : BoostScore → Prop
  | value (factor : Number) : Factory ⟨.value (.ofNumber factor), .int 0⟩
  | path (field : FieldPath) (fallback : Number) : Factory ⟨.path field, .ofNumber fallback⟩

/-- The strategies that the factories for every role make. -/
inductive Rescaling.Factory : Rescaling → Prop
  | boost {b : BoostScore} : b.Factory → Factory (.boost b)
  | constant (value : Number) : Factory (.constant (.ofNumber value))

/-- The strategies that the factories make. -/
inductive Adjustment.Factory : Adjustment → Prop
  | rescaling {r : Rescaling} : r.Factory → Factory (.rescaling r)
  | function (expression : Document) : Factory (.function (.ofValue (.object expression)))

namespace BoostScore

theorem render_value (factor : Number) (fallback : Datum) :
    render ⟨.value (.ofNumber factor), fallback⟩
      = .ok (.object [("value", .ofNumber factor)]) := by
  simp [render, Datum.ofNumber, Except.map]

theorem render_path (field : FieldPath) (fallback : Number) :
    render ⟨.path field, .ofNumber fallback⟩
      = .ok (.object (slots [("path", some field.render), ("undefined", elided fallback 0)])) := by
  unfold render elided
  rw [Datum.same_ofNumber_int]
  by_cases h : fallback.same (.whole 0) = true
  · simp [h, slots]
  · simp [h, slots, Datum.ofNumber, Except.map]

theorem same_datum (a b : BoostScore) :
    a.datum.same b.datum = (Datum.sameItems (a.source.parts ++ [a.fallback])
      (b.source.parts ++ [b.fallback])) := by
  simp [datum, Datum.ofDocument]

theorem faithful : Faithful Factory datum render := by
  intro a b ha hb
  cases ha with
  | value factor =>
    cases hb with
    | value factor' =>
      refine ⟨_, _, render_value .., render_value .., ?_⟩
      rw [same_object_single, same_ofNumber, same_datum]
      have zero : (Datum.int 0).same (.int 0) = true := by decide
      simp [BoostSource.parts, zero]
    | path field fallback =>
      refine ⟨_, _, render_value .., render_path .., ?_⟩
      rw [same_object_left fun h => absurd ((keys_slots_sublist _).subset h) (by simp), same_datum]
      simp [BoostSource.parts]
  | path field fallback =>
    cases hb with
    | value factor =>
      refine ⟨_, _, render_path .., render_value .., ?_⟩
      have apart : (object (slots [("path", some field.render), ("undefined", elided fallback 0)])).same
          (.object [("value", .ofNumber factor)]) = false :=
        same_object_left (by simp [Entries.keys])
      rw [apart, same_datum]
      simp [BoostSource.parts]
    | path field' fallback' =>
      refine ⟨_, _, render_path .., render_path .., ?_⟩
      rw [same_slots (by rfl) (by simp), same_datum]
      simp [BoostSource.parts, sameSlot_some, sameSlot_elided, FieldPath.same_datum]

end BoostScore

/-- A strategy under its name. -/
def Rescaling.entry (r : Rescaling) : Except Fault Value :=
  r.render.map fun v => .object [(r.key, v)]

def Adjustment.entry (a : Adjustment) : Except Fault Value :=
  a.render.map fun v => .object [(a.key, v)]

theorem Rescaling.faithful_constant :
    Faithful (fun value => ∃ n : Number, value = .ofNumber n) (fun value => (constant value).datum)
      fun value => (constant value).render := by
  rintro _ _ ⟨m, rfl⟩ ⟨n, rfl⟩
  have render (n : Number) :
      (constant (.ofNumber n)).render = .ok (.object [("value", .ofNumber n)]) := by
    simp [Rescaling.render, Datum.ofNumber, Except.map]
  refine ⟨_, _, render m, render n, ?_⟩
  rw [same_object_single, same_ofNumber]
  simp [datum, typeName, Datum.ofDocument]

theorem Rescaling.faithful : Faithful Factory datum entry := by
  have apart (b : BoostScore) (value : Datum) :
      (boost b).datum.same (constant value).datum = false ∧
        (constant value).datum.same (boost b).datum = false := by
    simp [datum, typeName, BoostScore.datum, BoostScore.typeName, Datum.ofDocument]
  intro r s hr hs
  cases hr with
  | @boost b hb =>
    cases hs with
    | @boost c hc => exact BoostScore.faithful.under "boost" b c hb hc
    | constant n =>
      exact entries_apart (by simp [key]) (BoostScore.faithful.ok hb) (faithful_constant.ok ⟨n, rfl⟩)
        (apart b _).1
  | constant m =>
    cases hs with
    | @boost c hc =>
      exact entries_apart (by simp [key]) (faithful_constant.ok ⟨m, rfl⟩) (BoostScore.faithful.ok hc)
        (apart c _).2
    | constant n => exact faithful_constant.under "constant" _ _ ⟨m, rfl⟩ ⟨n, rfl⟩

theorem Adjustment.faithful_function :
    Faithful (fun expression => ∃ d : Document, expression = .ofValue (.object d))
      (fun expression => (function expression).datum) fun expression =>
        (function expression).render := by
  rintro _ _ ⟨d, rfl⟩ ⟨e, rfl⟩
  have render (d : Document) : (function (.ofValue (.object d))).render = .ok (.object d) := by
    rw [Adjustment.render, Datum.toDocument_ofValue_object]
    rfl
  refine ⟨_, _, render d, render e, ?_⟩
  simp [datum, typeName, Datum.ofDocument, Value.same]

theorem Adjustment.faithful : Faithful Factory datum entry := by
  have typeName_ne (r : Rescaling) : r.typeName ≠ "FunctionScore" := by
    cases r <;> simp [Rescaling.typeName, BoostScore.typeName]
  have apart (r : Rescaling) (expression : Datum) :
      (rescaling r).datum.same (function expression).datum = false ∧
        (function expression).datum.same (rescaling r).datum = false := by
    have made : ∃ parts d c, (rescaling r).datum = .made r.typeName parts d c := by
      cases r <;> exact ⟨_, _, _, rfl⟩
    obtain ⟨parts, d, c, h⟩ := made
    rw [h]
    simp [datum, typeName, Datum.ofDocument, typeName_ne r, (typeName_ne r).symm]
  have key_ne (r : Rescaling) : r.key ≠ "function" := by cases r <;> simp [Rescaling.key]
  have rendered {r : Rescaling} (h : r.Factory) : ∃ v, r.render = .ok v := by
    obtain ⟨v, hv⟩ := Rescaling.faithful.ok h
    obtain ⟨w, hw, _⟩ := Outcome.map_eq_ok hv
    exact ⟨w, hw⟩
  intro a b ha hb
  cases ha with
  | @rescaling r hr =>
    cases hb with
    | @rescaling s hs => exact Rescaling.faithful r s hr hs
    | function e =>
      exact entries_apart (key_ne r) (rendered hr) (faithful_function.ok ⟨e, rfl⟩) (apart r _).1
  | function d =>
    cases hb with
    | @rescaling s hs =>
      exact entries_apart (key_ne s).symm (faithful_function.ok ⟨d, rfl⟩) (rendered hs) (apart s _).2
    | function e => exact faithful_function.under "function" _ _ ⟨d, rfl⟩ ⟨e, rfl⟩

namespace ScoreOf

variable {σ : Type} {P : σ → Prop} {datum : σ → Datum} {key : σ → String}
  {render : σ → Except Fault Value}

/-- Options made by a factory: they hold a strategy, and one that satisfies `P`. -/
def Made (P : σ → Prop) (o : ScoreOf σ) : Prop := ∃ s, o.strategy = some s ∧ P s

/-- The strategy that options are compared by here, whatever their role. -/
def strategyDatum (datum : σ → Datum) (o : ScoreOf σ) : Datum := .ofOption datum o.strategy

theorem faithful (h : Faithful P datum fun s => (render s).map fun v => .object [(key s, v)]) :
    Faithful (Made P) (strategyDatum datum) (renderWith key render) := by
  rintro ⟨_, _⟩ ⟨_, _⟩ ⟨s, rfl, hs⟩ ⟨t, rfl, ht⟩
  exact h s t hs ht

end ScoreOf

/-! ## Parts that may be missing -/

/-- Equality of parts that may be missing. -/
def sameGiven {α : Type} (datum : α → Datum) : Option α → Option α → Bool
  | none, none => true
  | some a, some b => (datum a).same (datum b)
  | _, _ => false

/-- A part that is missing is told from every part that is there. -/
theorem Faithful.given {α : Type} {P : α → Prop} {datum : α → Datum}
    {render : α → Except Fault Value} (h : Faithful P datum render) {o p : Option α}
    (ho : ∀ a ∈ o, P a) (hp : ∀ b ∈ p, P b) :
    ∃ v w : Option Value, o.map render = v.map .ok ∧ p.map render = w.map .ok ∧
      sameSlot v w = sameGiven datum o p := by
  match o, p with
  | none, none => exact ⟨none, none, rfl, rfl, rfl⟩
  | some a, none =>
    obtain ⟨v, hv⟩ := h.ok (ho a rfl)
    exact ⟨some v, none, by rw [Option.map_some, hv]; rfl, rfl, rfl⟩
  | none, some b =>
    obtain ⟨w, hw⟩ := h.ok (hp b rfl)
    exact ⟨none, some w, rfl, by rw [Option.map_some, hw]; rfl, rfl⟩
  | some a, some b =>
    obtain ⟨v, w, hv, hw, hs⟩ := h a b (ho a rfl) (hp b rfl)
    exact ⟨some v, some w, by rw [Option.map_some, hv]; rfl, by rw [Option.map_some, hw]; rfl, hs⟩

end DocSearch
