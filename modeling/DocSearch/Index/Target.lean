import DocSearch.Datum.Display
import DocSearch.Settings.Index

/-! # Managed indexes

Two collections have a search index with a definition of their own. A target names one of them; what
names neither stands for the listings collection but has no definition. -/

namespace DocSearch

namespace IndexDefinition

/-- The mapping of a field that is searched while it is typed: beginnings of words of 2 to 15
letters, accents ignored. -/
def completion : Value :=
  .object [("type", .str "autocomplete"), ("tokenization", .str "edgeGram"), ("minGrams", .int 2),
    ("maxGrams", .int 15), ("foldDiacritics", .bool true)]

def text : Value := .object [("type", .str "string")]

def geo : Value := .object [("type", .str "geo")]

/-- The mapping of a nested document. -/
def nested (fields : Document) : Value :=
  .object [("type", .str "document"), ("fields", .object fields)]

/-- A definition that maps the given fields and no others. -/
def ofFields (fields : Document) : Document :=
  [("mappings", .object [("dynamic", .bool false), ("fields", .object fields)])]

def movies : Document := ofFields [("title", .list [completion, text]), ("plot", text)]

def listings : Document :=
  ofFields [("name", text), ("description", text),
    ("address", nested [("street", text), ("location", geo)])]

end IndexDefinition

/-- What index work is done on. -/
inductive Target where
  | movies
  | listings
  | unmanaged (key : Datum)
  deriving Inhabited

namespace Target

def name : Target → String
  | .movies => "movies"
  | .listings => "listings"
  | .unmanaged key => key.display

def ofName (name : String) : Target :=
  if name = "movies" then .movies
  else if name = "listings" then .listings
  else .unmanaged (.str name)

/-- The target that a datum names; anything but a text is unmanaged. -/
def ofDatum : Datum → Target
  | .str name => ofName name
  | key => .unmanaged key

/-- The targets that have a definition, in the order in which they are worked on. -/
def managed : List Target := [.movies, .listings]

/-- The definition of a target. Lists and objects are not even looked for. -/
def definition : Target → Except Fault Document
  | .movies => .ok IndexDefinition.movies
  | .listings => .ok IndexDefinition.listings
  | .unmanaged key =>
    match key with
    | .list _ | .object _ => .error (.notKey key.kindName)
    | key => .error (.unknownTarget key.quoted)

/-- The collection of a target. -/
def place (settings : IndexSettings) : Target → Namespace
  | .movies => settings.movies
  | .listings | .unmanaged _ => settings.listings

end Target
end DocSearch
