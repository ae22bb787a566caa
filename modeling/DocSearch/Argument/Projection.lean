import DocSearch.Argument.Basic
import DocSearch.Datum.Entries

/-! # Projections from arguments -/

namespace DocSearch.Projection

/-- The entries of an argument that has to be an object. -/
def mappingOf : Argument → Except Fault (Entries Datum)
  | .object entries => .ok (Argument.entriesOf entries)
  | a => .error (.notMapping a.kindName)

def of (includedFields searchHighlights textScore searchScore extraExpressions : Argument) :
    Except Fault Projection := do
  let includedFields ← includedFields.datum.entries
  let extraExpressions ← extraExpressions.datum.entries
  return ⟨includedFields, searchHighlights.datum, textScore.datum, searchScore.datum,
    extraExpressions⟩

/-- The projection that includes fields. -/
def ofFields (fields : List Argument) (searchHighlights textScore searchScore : Argument) :
    Except Fault Projection := do
  let names ← fields.mapM fun field => field.datum.key
  return including names searchHighlights.datum textScore.datum searchScore.datum

/-- A refinement of a projection; each gives a new one. -/
inductive Call where
  | withFields (fields : Argument)
  | withExpressions (expressions : Argument)
  | withoutId

def call (p : Projection) : Call → Except Fault Projection
  | .withFields fields => (mappingOf fields).map fun fields => p.withFields fields
  | .withExpressions expressions =>
    (mappingOf expressions).map fun expressions => p.withExpressions expressions
  | .withoutId => .ok p.withoutId

end DocSearch.Projection
