import DocSearch.Argument.Clause
import DocSearch.Query.Projection

/-! # Search pipelines

A pipeline is a list of stages: the search, then a limit, then a projection, the last two only if
they are given. Highlights are found by the search stage and brought back by the projection, so a
projection that does not ask for them is made to. -/

namespace DocSearch.Pipeline

def searchKey : String := "$search"
def limitKey : String := "$limit"
def projectKey : String := "$project"

/-- The limit of a search that does not name one. -/
def defaultLimit : Int := 20

/-- The count that a limit argument gives, if it gives one: null, or a positive integer. A truth
value is no count. -/
def limitOf : Argument → Except Fault (Option Int)
  | .null => .ok none
  | .int n => if 0 < n then .ok (some n) else .error (.invalidLimit (toString n))
  | a => .error (.invalidLimit a.quoted)

/-- The search stage's document around a rendered clause. The index is named unless it is null. -/
def searchBody (clause : Document) (highlight : Option Value) (index : Value) : Document :=
  clause ++ (highlight.map fun options => ("highlight", options)).toList
    ++ (if index.isNull then [] else [("index", index)])

/-- The projection stage's document. -/
def projectBody (projection : Document) (highlighted : Bool) : Document :=
  if highlighted && !projection.contains Projection.highlightsKey then
    projection ++ [(Projection.highlightsKey, Projection.highlightsMeta)]
  else projection

/-- The stages of a search. A limit that is none is reported before a clause that is none. The
projection is rendered already; of the highlight options only the document is asked for. -/
def build (clause : Argument) (projection : Option Datum) (highlight : Argument) (index : Value)
    (limit : Argument) : Except Fault (List Document) := do
  let limit ← limitOf limit
  let projection ← projection.mapM Datum.toDocument
  let clause ← Clause.documentOf clause
  let highlight ← highlight.ifGiven.mapM Argument.render
  let search : Document := [(searchKey, .object (searchBody clause highlight index))]
  let limitStage := (limit.map fun n => [(limitKey, Value.int n)]).toList
  let projectStage := (projection.map fun d =>
    [(projectKey, Value.object (projectBody d highlight.isSome))]).toList
  return search :: (limitStage ++ projectStage)

end DocSearch.Pipeline
