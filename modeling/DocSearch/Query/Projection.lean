import DocSearch.Datum.Basic

/-! # Projections

A projection says which fields of a matching document come back. It is rendered in layers: the
included fields without the internal type tag, then the expressions over them, then the flagged meta
fields. -/

namespace DocSearch

/-- The included fields, the flags of the meta fields and the expressions. -/
structure Projection where
  includedFields : Entries Datum := []
  searchHighlights : Datum := .bool false
  textScore : Datum := .bool false
  searchScore : Datum := .bool false
  extraExpressions : Entries Datum := []
  deriving Inhabited

namespace Projection

def typeName : String := "ProjectionSpec"

/-- The field that stored documents use for their own type. It is never projected by inclusion. -/
def typeTag : String := "_t"

/-- The expression for a meta field. -/
def metaField (name : String) : Value := .object [("$meta", .str name)]

def highlightsKey : String := "searchHighlights"

def highlightsMeta : Value := metaField highlightsKey

/-- The projection that includes the given fields. -/
def including (fields : List String) (searchHighlights textScore searchScore : Datum) :
    Projection where
  includedFields := Entries.ofList (fields.map fun field => (field, .bool true))
  searchHighlights := searchHighlights
  textScore := textScore
  searchScore := searchScore

def withFields (fields : Entries Datum) (p : Projection) : Projection :=
  { p with includedFields := p.includedFields.merge fields }

def withExpressions (expressions : Entries Datum) (p : Projection) : Projection :=
  { p with extraExpressions := p.extraExpressions.merge expressions }

def withoutId (p : Projection) : Projection := p.withExpressions [("_id", .bool false)]

/-- The included fields by their truth. -/
def includedEntries (p : Projection) : Entries Datum :=
  p.includedFields.map fun (name, d) => (name, .bool d.truthy)

/-- The flagged meta fields, in their order. -/
def metaEntries (p : Projection) : Entries Datum :=
  [(highlightsKey, p.searchHighlights), ("textScore", p.textScore),
   ("searchScore", p.searchScore)].filterMap fun (name, flag) =>
    if flag.truthy then some (name, .ofValue (metaField name)) else none

/-- The three layers, one over the other. -/
def entries (p : Projection) : Entries Datum :=
  ((Entries.erase typeTag p.includedEntries).merge p.extraExpressions).merge p.metaEntries

def render (p : Projection) : Except Fault Document := Datum.document p.entries

def datum (p : Projection) : Datum :=
  .ofDocument typeName
    [.object p.includedFields, p.searchHighlights, p.textScore, p.searchScore,
      .object p.extraExpressions] (p.render.map .object)

end Projection
end DocSearch
