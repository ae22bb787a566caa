import DocSearch.Action
import DocSearch.Search.Defaults
import DocSearch.Search.Stages

/-! # Running searches

A collection answers a pipeline with documents or fails. An executor decodes them, and a searcher
builds the pipeline and hands it to its executor. The state of a collection is a parameter, so
whatever a server may do is covered; a searcher adds the defaults to it. What a search is for is a
parameter too: any type of results with any way to decode them. -/

namespace DocSearch

/-- A collection that answers pipelines. -/
structure Collection (σ : Type) where
  aggregate : List Document → Action σ (List Datum)

/-- A type of results: how it is known to the defaults, and what a document is decoded to. -/
structure ResultType (ρ : Type) where
  key : ResultKey
  decode : Datum → Except Fault ρ

/-- Something that runs a pipeline for results of a type. -/
structure Executor (σ ρ : Type) where
  run : List Document → ResultType ρ → Action σ (List ρ)

/-- The results that documents hold, or the fault of the first that holds none. -/
def decodeAll {ρ : Type} (type : ResultType ρ) : List Datum → Except Fault (List ρ)
  | [] => .ok []
  | d :: rest =>
    match type.decode d with
    | .error fault => .error fault
    | .ok record => (decodeAll type rest).map (record :: ·)

/-- The executor that asks a collection. -/
def Collection.executor {σ ρ : Type} (c : Collection σ) : Executor σ ρ where
  run stages type := do
    let documents ← c.aggregate stages
    Action.lift (decodeAll type documents)

/-- A searcher for results of one type. -/
structure Searcher (ρ : Type) where
  type : ResultType ρ
  /-- The name of the index, null for the one that the server takes by default. -/
  index : Value

/-- What a search is asked with. A projection, highlight options or a limit that are not given are
null. -/
structure SearchRequest where
  clause : Argument
  projection : Argument
  highlight : Argument
  limit : Argument

namespace Searcher

variable {σ ρ : Type}

/-- The stages of a search, and the defaults after asking for its default projection. -/
def stages (c : Searcher ρ) (request : SearchRequest) (defaults : Defaults) :
    Except Fault (List Document) × Defaults :=
  match defaults.projectionFor c.type.key request.projection with
  | (.error fault, defaults) => (.error fault, defaults)
  | (.ok projection, defaults) =>
    (Pipeline.build request.clause (projection.map Datum.ofValue) request.highlight c.index
      request.limit, defaults)

/-- The results of a search. The executor is reached only if the pipeline can be built. -/
def execute (c : Searcher ρ) (executor : Executor σ ρ) (request : SearchRequest) :
    Action (Defaults × σ) (List ρ) := do
  let stages ← fun (defaults, state) =>
    let (stages, defaults) := c.stages request defaults
    (stages, defaults, state)
  (executor.run stages c.type).onSecond

/-- A search by a text clause. -/
def text (c : Searcher ρ) (executor : Executor σ ρ) (request : SearchRequest) :
    Action (Defaults × σ) (List ρ) := c.execute executor request

/-- A search by a phrase clause. -/
def phrase (c : Searcher ρ) (executor : Executor σ ρ) (request : SearchRequest) :
    Action (Defaults × σ) (List ρ) := c.execute executor request

/-- A search by an autocomplete clause. -/
def autocomplete (c : Searcher ρ) (executor : Executor σ ρ)
    (request : SearchRequest) : Action (Defaults × σ) (List ρ) := c.execute executor request

/-- A search by a clause on places in a region. -/
def geoWithin (c : Searcher ρ) (executor : Executor σ ρ) (request : SearchRequest) :
    Action (Defaults × σ) (List ρ) := c.execute executor request

/-- A search by a compound clause. -/
def compound (c : Searcher ρ) (executor : Executor σ ρ) (request : SearchRequest) :
    Action (Defaults × σ) (List ρ) := c.execute executor request

end Searcher

/-- The ways to search: by any clause, or by the clause of one operator. The clause is checked only
when the pipeline is built, and there by none of them for its operator. -/
inductive SearchMethod where
  | execute
  | text
  | phrase
  | autocomplete
  | geoWithin
  | compound
  deriving DecidableEq, Inhabited

/-- A call of a searcher. -/
inductive SearchCall where
  | build (request : SearchRequest)
  | search (method : SearchMethod) (request : SearchRequest)

/-- What a call of a searcher answers. -/
inductive SearchAnswer (ρ : Type) where
  | stages (stages : List Document)
  | results (records : List ρ)

namespace Searcher

variable {σ ρ : Type}

def search (c : Searcher ρ) (executor : Executor σ ρ) (request : SearchRequest) :
    SearchMethod → Action (Defaults × σ) (List ρ)
  | .execute => c.execute executor request
  | .text => c.text executor request
  | .phrase => c.phrase executor request
  | .autocomplete => c.autocomplete executor request
  | .geoWithin => c.geoWithin executor request
  | .compound => c.compound executor request

/-- One call. Building a pipeline leaves the executor alone. -/
def call (c : Searcher ρ) (executor : Executor σ ρ) :
    SearchCall → Action (Defaults × σ) (SearchAnswer ρ)
  | .build request => fun (defaults, state) =>
    let (stages, defaults) := c.stages request defaults
    (stages.map .stages, defaults, state)
  | .search method request => do
    let records ← c.search executor request method
    return .results records

end Searcher
end DocSearch
