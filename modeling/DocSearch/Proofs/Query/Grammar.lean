import DocSearch.Query.Clause

/-! # The grammar of operator documents

What a search stage may hold, said without a clause in sight. A document has one key, its operator.
The body of an operator has its fields in a fixed order, each of them either required or optional,
and each admitting certain values only. A compound body holds lists of documents of the same
grammar. -/

namespace DocSearch.Grammar

/-! ## Fields in order -/

/-- A place for an entry in a body. -/
structure Field where
  key : String
  required : Bool
  Admits : Value → Prop

def required (key : String) (admits : Value → Prop) : Field := ⟨key, true, admits⟩

def optional (key : String) (admits : Value → Prop) : Field := ⟨key, false, admits⟩

/-- The entries fill the fields one after the other; only optional fields are passed over. -/
inductive Fills : List Field → Document → Prop
  | nil : Fills [] []
  | entry {f : Field} {fields : List Field} {v : Value} {d : Document} :
      f.Admits v → Fills fields d → Fills (f :: fields) ((f.key, v) :: d)
  | skip {f : Field} {fields : List Field} {d : Document} :
      f.required = false → Fills fields d → Fills (f :: fields) d

theorem Fills.append {fs gs : List Field} {d e : Document} (h : Fills fs d) (h' : Fills gs e) :
    Fills (fs ++ gs) (d ++ e) := by
  induction h with
  | nil => exact h'
  | entry hv _ ih => exact .entry hv ih
  | skip hr _ ih => exact .skip hr ih

theorem Fills.single {key : String} {admits : Value → Prop} {v : Value} (h : admits v) :
    Fills [required key admits] [(key, v)] :=
  @Fills.entry (required key admits) [] v [] h .nil

theorem Fills.present {key : String} {admits : Value → Prop} {v : Value} (h : admits v) :
    Fills [optional key admits] [(key, v)] :=
  @Fills.entry (optional key admits) [] v [] h .nil

theorem Fills.absent {key : String} {admits : Value → Prop} : Fills [optional key admits] [] :=
  .skip rfl .nil

/-- The keys that fill fields are the keys of fields, in their order. -/
theorem Fills.keys_sublist {fields : List Field} {d : Document} (h : Fills fields d) :
    (Entries.keys d).Sublist (fields.map Field.key) := by
  induction h with
  | nil => exact .slnil
  | entry _ _ ih => exact ih.cons_cons _
  | skip _ _ ih => exact ih.cons _

/-- A required field is filled. -/
theorem Fills.key_mem {fields : List Field} {d : Document} (h : Fills fields d) {f : Field}
    (hf : f ∈ fields) (hr : f.required = true) : f.key ∈ Entries.keys d := by
  induction h with
  | nil => cases hf
  | entry _ _ ih =>
    rcases List.mem_cons.mp hf with rfl | hf
    · exact List.mem_cons_self
    · exact List.mem_cons_of_mem _ (ih hf)
  | skip hs _ ih =>
    rcases List.mem_cons.mp hf with rfl | hf
    · rw [hr] at hs; cases hs
    · exact ih hf

/-! ## Values of fields -/

/-- One text, or a list of at least one. -/
inductive Texts : Value → Prop
  | single (text : String) : Texts (.str text)
  | many (first : String) (rest : List String) : Texts (.list ((first :: rest).map .str))

/-- A number that is not the default of its field. -/
def Unlike (default : Int) (v : Value) : Prop :=
  ∃ n, v = .ofNumber n ∧ n.same (.whole default) = false

/-- An object that fills fields. -/
def Holding (fields : List Field) (v : Value) : Prop := ∃ d, v = .object d ∧ Fills fields d

def fuzzyFields : List Field :=
  [optional "maxEdits" (Unlike 2), optional "prefixLength" (Unlike 0),
   optional "maxExpansions" (Unlike 50)]

inductive Boost : Value → Prop
  | value (factor : Value) : Boost (.object [("value", factor)])
  | path {field : Value} : Texts field → Boost (.object [("path", field)])
  | pathOr {field : Value} (fallback : Value) :
      Texts field → Boost (.object [("path", field), ("undefined", fallback)])

/-- A score; expressions are for the operators that admit every adjustment. -/
inductive Score : (adjustable : Bool) → Value → Prop
  | boost {adjustable : Bool} {body : Value} :
      Boost body → Score adjustable (.object [("boost", body)])
  | constant {adjustable : Bool} (value : Value) :
      Score adjustable (.object [("constant", .object [("value", value)])])
  | function (expression : Document) : Score true (.object [("function", .object expression)])

/-- A position, with the longitude in front. -/
def Position (v : Value) : Prop :=
  ∃ longitude latitude,
    v = .object [("type", .str "Point"), ("coordinates", .list [longitude, latitude])]

/-- The three ways to write a region. -/
inductive RegionKey where
  | circle
  | box
  | geometry
  deriving DecidableEq

def RegionKey.key : RegionKey → String
  | .circle => "circle"
  | .box => "box"
  | .geometry => "geometry"

inductive Region : RegionKey → Value → Prop
  | circle {center : Value} (radius : Number) : Position center →
      Region .circle (.object [("center", center), ("radius", .ofNumber radius)])
  | box {bottomLeft topRight : Value} : Position bottomLeft → Position topRight →
      Region .box (.object [("bottomLeft", bottomLeft), ("topRight", topRight)])
  | polygon (rings : List Value) :
      Region .geometry (.object [("type", .str "Polygon"), ("coordinates", .list rings)])
  | multiPolygon (polygons : List Value) :
      Region .geometry (.object [("type", .str "MultiPolygon"), ("coordinates", .list polygons)])

/-! ## Leaves -/

/-- How a text search may go beyond the exact word. -/
inductive TextMode where
  | exact
  | fuzzy
  | synonyms
  deriving DecidableEq

/-- The forms of a leaf. -/
inductive LeafForm where
  | text (mode : TextMode)
  | phrase
  | autocomplete
  | geoWithin (region : RegionKey)
  deriving DecidableEq

namespace LeafForm

def operator : LeafForm → String
  | .text _ => "text"
  | .phrase => "phrase"
  | .autocomplete => "autocomplete"
  | .geoWithin _ => "geoWithin"

/-- A region search is the only one without a query. -/
def queryFields : LeafForm → List Field
  | .geoWithin _ => []
  | _ => [required "query" Texts]

/-- A completion is the only search whose score admits no expression. -/
def adjustable : LeafForm → Bool
  | .autocomplete => false
  | _ => true

def scoreFields (form : LeafForm) (scored : Bool) : List Field :=
  if scored then [required "score" (Score form.adjustable)] else []

/-- The operator's own fields. -/
def ownFields : LeafForm → List Field
  | .text .exact => []
  | .text .fuzzy => [required "fuzzy" (Holding fuzzyFields)]
  | .text .synonyms => [required "synonyms" fun v => ∃ mapping, v = .str mapping]
  | .phrase => [optional "slop" (Unlike 0)]
  | .autocomplete =>
    [optional "tokenOrder" fun v => v = .str "sequential",
     optional "fuzzy" (Holding fuzzyFields)]
  | .geoWithin region => [required region.key (Region region)]

/-- The fields of a leaf's body. -/
def fields (form : LeafForm) (scored : Bool) : List Field :=
  required "path" Texts :: (form.queryFields ++ form.scoreFields scored ++ form.ownFields)

theorem query_mem_iff {form : LeafForm} {scored : Bool} {body : Document}
    (h : Fills (form.fields scored) body) :
    "query" ∈ Entries.keys body ↔ form.queryFields ≠ [] := by
  constructor
  · intro hk hq
    have hm := h.keys_sublist.subset hk
    cases form with
    | geoWithin region => cases scored <;> cases region <;> revert hm <;> decide
    | text mode => cases hq
    | phrase => cases hq
    | autocomplete => cases hq
  · intro hq
    have hf : required "query" Texts ∈ form.fields scored := by
      cases form with
      | geoWithin region => exact absurd rfl hq
      | text mode => exact .tail _ (.head _)
      | phrase => exact .tail _ (.head _)
      | autocomplete => exact .tail _ (.head _)
    exact h.key_mem hf rfl

theorem score_mem_iff {form : LeafForm} {scored : Bool} {body : Document}
    (h : Fills (form.fields scored) body) :
    "score" ∈ Entries.keys body ↔ scored = true := by
  constructor
  · intro hk
    have hm := h.keys_sublist.subset hk
    cases scored with
    | true => rfl
    | false =>
      cases form with
      | text mode => cases mode <;> revert hm <;> decide
      | phrase => revert hm; decide
      | autocomplete => revert hm; decide
      | geoWithin region => cases region <;> revert hm <;> decide
  · rintro rfl
    have hf : required "score" (Score form.adjustable) ∈ form.fields true := by
      refine .tail _ (List.mem_append_left _ (List.mem_append_right _ ?_))
      exact .head _
    exact h.key_mem hf rfl

end LeafForm

/-! ## Documents -/

/-- A list of at least one of certain documents. -/
def Listing (documents : List Document) (v : Value) : Prop :=
  documents ≠ [] ∧ v = .list (documents.map .object)

/-- A number that asks for at least one match. -/
def Positive (v : Value) : Prop := ∃ n, v = .ofNumber n ∧ (Number.whole 0).lt n = true

def compoundFields (clauses : Occur → List Document) : List Field :=
  [optional "must" (Listing (clauses .must)), optional "mustNot" (Listing (clauses .mustNot)),
   optional "should" (Listing (clauses .should)), optional "filter" (Listing (clauses .filter)),
   optional "minimumShouldMatch" Positive]

/-- The documents of the grammar. -/
inductive Operator : Document → Prop
  | leaf (form : LeafForm) (scored : Bool) {body : Document} :
      Fills (form.fields scored) body → Operator [(form.operator, .object body)]
  | compound {clauses : Occur → List Document} {body : Document} :
      (∀ occur, ∀ d ∈ clauses occur, Operator d) → Fills (compoundFields clauses) body →
      Operator [("compound", .object body)]

end DocSearch.Grammar
