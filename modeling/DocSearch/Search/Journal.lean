import DocSearch.Search.Searcher
import DocSearch.Value.Json

/-! # The pipeline journal

A journal stands before an executor and writes down each pipeline that is sent, one line of JSON
before it is run. A journal that cannot be written warns and lets the search go on. -/

namespace DocSearch

/-- The lines written so far and the warnings given. -/
structure Journal where
  writable : Bool
  lines : List String := []
  warnings : Nat := 0

namespace Journal

/-- The file that the lines make up, each ended by a line feed. -/
def contents (j : Journal) : String :=
  String.ofList (j.lines.flatMap fun line => line.toList ++ ['\n'])

/-- What is written about a pipeline for results of a type with that name. -/
def record (stamp name : String) (stages : List Document) : Value :=
  .object [("logged_at", .str stamp), ("result_type", .str name),
    ("stages", .list (stages.map .object))]

/-- The journal with one more record, or one more warning. -/
def write (j : Journal) (record : Value) : Journal :=
  if j.writable then { j with lines := j.lines ++ [Json.text record] }
  else { j with warnings := j.warnings + 1 }

end Journal

/-- The executor behind a journal. `stamp` tells the time of writing. -/
def Executor.journaled {σ ρ : Type} (inner : Executor σ ρ) (stamp : σ → String) :
    Executor (Journal × σ) ρ where
  run stages type := do
    Action.modify fun (journal, state) =>
      (journal.write (Journal.record (stamp state) type.key.name stages), state)
    (inner.run stages type).onSecond

end DocSearch
