import DocSearch.CommandLine.Exit
import DocSearch.Demo.Plan
import DocSearch.Search.Server

/-! # Running the demonstration

A dry run shows the stages of a search and reaches no server. A run opens a connection, asks whether
the server answers, searches, and closes the connection whatever has happened in between. -/

namespace DocSearch

/-- What is shown. -/
inductive Output where
  | line (text style : String)
  | json (value : Value)
  | table (title : String) (columns : List String) (rows : List (List String))

/-- What a run shows and how it ends. -/
structure Report where
  output : List Output
  exit : Exit

namespace Report

def columnsOf : DemoSearch → List String
  | .autocomplete _ => ["Title", "Year", "Hits"]
  | .nearby .. => ["Name", "Street", "Hits"]

/-- The cell of a text that may be missing or empty. -/
def cellOf (text : Option String) : String :=
  match text with
  | none => "-"
  | some s => if s = "" then "-" else s

/-- The cells of a film. A year of zero counts as none. -/
def filmRow (m : Movie) : List String :=
  let year := m.year.bind fun n => if n = 0 then none else some (toString n)
  [m.title, cellOf year, m.highlightLine]

/-- The cells of a place to stay. -/
def listingRow (l : Listing) : List String :=
  [l.name, cellOf (l.address.bind (·.street)), l.highlightLine]

def rowOf : Record → List String
  | ⟨.movie, m⟩ => filmRow m
  | ⟨.listing, l⟩ => listingRow l
  | ⟨.bare, _⟩ | ⟨.highlight, _⟩ | ⟨.highlightText, _⟩ => []

def titleOf : DemoSearch → String
  | .autocomplete query => "autocomplete: " ++ Text.quoted query
  | .nearby query latitude longitude distance =>
    "nearby: " ++ Text.quoted query ++ " (" ++ latitude.display ++ ", " ++ longitude.display ++ ") ≤ "
      ++ distance.display ++ "m"

/-- The report of a search that was run. -/
def ofResults (search : DemoSearch) (records : List Record) : Report :=
  ⟨[.table (titleOf search) (columnsOf search) (records.map rowOf)], .success⟩

/-- The report of a search that was only shown. -/
def ofStages (stages : List Document) : Report :=
  ⟨[.line "\n[Pipeline]" "bold blue", .json (.list (stages.map .object))], .success⟩

/-- The report when the server does not answer. -/
def unreachable : Report :=
  ⟨[.line "MongoDB에 연결할 수 없습니다. MONGODB_URI를 확인하세요." "red"], .failure⟩

end Report

/-- The defaults of results, the journal and the server during a run. -/
abbrev DemoState (σ : Type) := Defaults × Journal × σ

namespace DemoPlan

variable {σ : Type}

/-- The stages of a plan, as a dry run shows them. -/
def stages (p : DemoPlan) (L : Library) : Action (DemoState σ) (List Document) :=
  fun (defaults, rest) =>
    let (stages, defaults) := (p.searcher L).stages p.request defaults
    (stages, defaults, rest)

/-- The results of a plan over an open connection, or nothing if the server does not answer. -/
def searchOver (p : DemoPlan) (setup : SearchSetup Record) (server : SearchServer σ)
    (stamp : σ → String) : Action (DemoState σ) (Option (List Record)) := do
  if ← server.isReachable.onSecond.onSecond then
    let records ← setup.searcher.execute (setup.executor server stamp) p.request
    return some records
  else return none

/-- The results of a plan. A connection is opened only once all that it takes is settled, and then
closed in any case. -/
def search (p : DemoPlan) (L : Library) (server : SearchServer σ) (stamp : σ → String) :
    Action (DemoState σ) (Option (List Record)) := do
  let setup ← Action.lift (SearchSetup.of (p.kind.resultType L) p.settings)
  (server.connect setup.connection).onSecond.onSecond
  (p.searchOver setup server stamp).ensuring fun (defaults, journal, s) =>
    (defaults, journal, server.close s)

end DemoPlan

namespace DemoRequest

variable {σ : Type}

/-- A request from the settings on. -/
def carryOut (L : Library) (server : SearchServer σ) (stamp : σ → String) (env : Environment)
    (request : DemoRequest) : Action (DemoState σ) Report := do
  let plan ← Action.lift (DemoPlan.of env request.limit request.search)
  if request.dryRun then return Report.ofStages (← plan.stages L)
  match ← plan.search L server stamp with
  | none => return Report.unreachable
  | some records => return Report.ofResults request.search records

/-- The whole program. -/
def runWords (L : Library) (server : SearchServer σ) (stamp : σ → String) (env : Environment)
    (words : List String) : Action (DemoState σ) Report :=
  match ofWords words with
  | .error stop => pure ⟨[], Exit.ofStop stop⟩
  | .ok none => pure ⟨[], .noCommand⟩
  | .ok (some request) => carryOut L server stamp env request

end DemoRequest
end DocSearch
