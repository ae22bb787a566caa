import DocSearch.Argument.Compound
import DocSearch.Argument.Projection
import DocSearch.CommandLine.Parse
import DocSearch.Record.Kind
import DocSearch.Search.Searcher
import DocSearch.Settings.Search

/-! # The demonstration searches

Two searches over public sample data: films by the beginning of their title, and places to stay near
a point, those first whose description holds a phrase. A plan is everything that such a search is
made of; it is the same whether the search is run or only shown. -/

namespace DocSearch

namespace RecordKind

/-- How the defaults know a kind of results. -/
def key (kind : RecordKind) : ResultKey := ⟨kind.typeName, kind.typeName⟩

/-- A kind of results as a searcher finds them. -/
def resultType (kind : RecordKind) (L : Library) : ResultType Record where
  key := kind.key
  decode d :=
    match kind.decode L d with
    | .ok record => .ok record
    | .error issues => .error (.invalidRecord issues)

end RecordKind

/-- What is searched for. The numbers are taken as they are given. -/
inductive DemoSearch where
  | autocomplete (query : String)
  | nearby (query : String) (latitude longitude distance : Value)

/-- A search as the command line asks for it. -/
structure DemoRequest where
  search : DemoSearch
  limit : Value
  /-- Whether the search is only shown. -/
  dryRun : Bool

/-- Everything that a search is made of. -/
structure DemoPlan where
  settings : SearchSettings
  kind : RecordKind
  request : SearchRequest

namespace DemoPlan

/-- The searcher that carries the search out. -/
def searcher (p : DemoPlan) (L : Library) : Searcher Record :=
  ⟨p.kind.resultType L, p.settings.searchIndex⟩

/-- The defaults of the two kinds of results. -/
def defaults : Defaults where
  registrations :=
    let fields (kind : RecordKind) (names : List String) : ResultKey × Registration :=
      (kind.key,
        ⟨.fixed (.made (.projection
          (.including names (.bool false) (.bool false) (.bool false)))), 0⟩)
    [fields .movie ["title", "year"], fields .listing ["name", "description", "address"]]

/-- The highlight options of a field, all else standard. -/
def highlightOf (field : String) : Except Fault HighlightOptions :=
  HighlightOptions.of (.str field) (.int HighlightOptions.defaultMaxCharacters)
    (.int HighlightOptions.defaultMaxPassages)

/-- The settings of an environment for the sample collection of films. -/
def filmSettings (env : Environment) : Except Fault SearchSettings :=
  (SearchSettings.load env {}).map fun s =>
    { s with database := .str "sample_mflix", collection := .str "movies" }

/-- The settings of an environment for the sample collection of places to stay. -/
def listingSettings (env : Environment) : Except Fault SearchSettings :=
  (SearchSettings.load env {}).map fun s =>
    { s with database := .str "sample_airbnb", collection := .str "listingsAndReviews" }

/-- The condition that a place lies near a point. -/
def nearClause (latitude longitude distance : Value) : Except Fault GeoWithinClause := do
  let center ← Point.of (.ofValue latitude) (.ofValue longitude)
  let circle ← Circle.of (.made (.point center)) (.ofValue distance)
  GeoWithinClause.of (.made (.shape (.circle circle))) (.str "address.location") .null

/-- A clause added to a compound clause under a heading. -/
def addClause (c : Compound) (occur : Occur) (clause : LeafClause) : Except Fault Compound :=
  match c.add occur [.given (.made (.clause (.leaf clause)))] with
  | (c, none) => .ok c
  | (_, some fault) => .error fault

/-- What comes back of a place to stay. -/
def nearbyProjection : Projection :=
  (Projection.including ["name", "description"] (.bool false) (.bool false) (.bool false)
    ).withoutId.withExpressions [("address.location", .bool true), ("address.street", .bool true)]

/-- The plan of a search. -/
def of (env : Environment) (limit : Value) : DemoSearch → Except Fault DemoPlan
  | .autocomplete query => do
    let settings ← filmSettings env
    let clause ← AutocompleteClause.of (.str query) (.str "title") (.str "any") .null .null
    let highlight ← highlightOf "title"
    return ⟨settings, .movie,
      ⟨.made (.clause (.leaf (.autocomplete clause))), .null, .made (.highlight highlight),
        .ofValue limit⟩⟩
  | .nearby query latitude longitude distance => do
    let settings ← listingSettings env
    let empty ← Compound.new (.int 0)
    let near ← nearClause latitude longitude distance
    let placed ← addClause empty .must (.geoWithin near)
    let phrase ← PhraseClause.of (.str query) (.str "description") .null (.int 0)
    let compound ← addClause placed .should (.phrase phrase)
    let highlight ← highlightOf "description"
    return ⟨settings, .listing,
      ⟨.made (.clause (.compound compound)), .made (.projection nearbyProjection),
        .made (.highlight highlight), .ofValue limit⟩⟩

end DemoPlan

/-! ## The command line -/

namespace DemoRequest

open CommandLine

def limitOption : OptionSpec := ⟨["--limit"], "limit", .value .integer, false⟩
def dryRunOption : OptionSpec := ⟨["--dry-run"], "dry_run", .flag, false⟩
def verboseOption : OptionSpec := ⟨["-v", "--verbose"], "verbose", .flag, false⟩
def latitudeOption : OptionSpec := ⟨["--lat"], "lat", .value .number, true⟩
def longitudeOption : OptionSpec := ⟨["--lon"], "lon", .value .number, true⟩
def distanceOption : OptionSpec := ⟨["--distance"], "distance", .value .number, false⟩

def queryOperand : String := "query"

def program : Program where
  options := [limitOption, dryRunOption, verboseOption]
  commands :=
    [⟨"autocomplete", [], [queryOperand]⟩,
      ⟨"nearby", [latitudeOption, longitudeOption, distanceOption], [queryOperand]⟩]

def defaultLimit : Value := .int 10
def defaultDistance : Value := .int 1000

def textOf (given : Given) (key : String) : String :=
  match given.get? key with
  | some (.str s) => s
  | _ => ""

/-- What is given for an option, or what stands for it. -/
def valueOf (given : Given) (option : OptionSpec) (default : Value) : Value :=
  (given.get? option.key).getD default

/-- The search that a command of a name asks for. -/
def searchOf (name : String) (given : Given) : Option DemoSearch :=
  let query := textOf given queryOperand
  if name = "autocomplete" then some (.autocomplete query)
  else if name = "nearby" then
    some (.nearby query (valueOf given latitudeOption .null) (valueOf given longitudeOption .null)
      (valueOf given distanceOption defaultDistance))
  else none

/-- The request of a command line, if it names a command. -/
def ofWords (words : List String) : Except Stop (Option DemoRequest) := do
  let invocation ← program.parse words
  return invocation.command.bind fun (name, given) =>
    (searchOf name given).map fun search =>
      { search := search
        limit := valueOf invocation.given limitOption defaultLimit
        dryRun := invocation.given.contains dryRunOption.key }

end DemoRequest
end DocSearch
