import DocSearch.Fault
import DocSearch.Numeric.Reading
import DocSearch.Settings.Environment
import DocSearch.Text.FilePath
import DocSearch.Text.Quoted
import DocSearch.Value.Basic

/-! # Settings of searches

Where searches go and how. Each setting has a variable and a default; a caller may give any of them
outright, and then its variable is not looked at, so one that cannot be read does no harm. -/

namespace DocSearch

/-- The settings of searches. Without an index name, which is then null, the server takes its own
default; without a path there is no journal. What a caller gives outright is not looked at, so a
setting may be any value. -/
structure SearchSettings where
  address : Value
  timeoutMs : Value
  database : Value
  collection : Value
  searchIndex : Value
  journalPath : Value
  deriving Inhabited

/-- The settings that a caller gives outright. -/
structure SearchOverrides where
  address : Option Value := none
  timeoutMs : Option Value := none
  database : Option Value := none
  collection : Option Value := none
  searchIndex : Option Value := none
  journalPath : Option Value := none
  deriving Inhabited

namespace SearchOverrides

/-- The settings given so far with one more. Every setting has a name; there are no others. -/
def give (given : SearchOverrides) (name : String) (v : Value) : Except Fault SearchOverrides :=
  if name = "mongodb_uri" then .ok { given with address := some v }
  else if name = "timeout_ms" then .ok { given with timeoutMs := some v }
  else if name = "database" then .ok { given with database := some v }
  else if name = "collection" then .ok { given with collection := some v }
  else if name = "search_index" then .ok { given with searchIndex := some v }
  else if name = "tap_path" then .ok { given with journalPath := some v }
  else .error (.unknownSetting name)

/-- The settings that the entries of a document give. -/
def ofDocument (d : Document) : Except Fault SearchOverrides :=
  d.foldlM (fun given entry => given.give entry.1 entry.2) {}

end SearchOverrides

namespace SearchSettings

def timeoutVariable : String := "ATLAS_SEARCH_TIMEOUT_MS"
def databaseVariable : String := "ATLAS_SEARCH_DATABASE"
def collectionVariable : String := "ATLAS_SEARCH_COLLECTION"
def journalVariable : String := "ATLAS_SEARCH_TAP_PATH"

/-- The number of milliseconds that a text names. -/
def readTimeout (text : String) : Except Fault Int :=
  match Numeral.settingInteger text with
  | .ok n => .ok n
  | .error .malformed => .error (.notInteger (Text.quoted text))
  | .error (.tooLong digits) => .error (.integerTooLong Numeral.digitLimit digits)

/-- The settings of an environment under what the caller gives. -/
def load (env : Environment) (given : SearchOverrides) : Except Fault SearchSettings := do
  let timeoutMs ← match given.timeoutMs with
    | some given => .ok given
    | none => (readTimeout (env.getOr timeoutVariable "10000")).map Value.int
  return {
    address := given.address.getD (.str (env.getOr connectionVariable ""))
    timeoutMs := timeoutMs
    database := given.database.getD (.str (env.getOr databaseVariable "sample_mflix"))
    collection := given.collection.getD (.str (env.getOr collectionVariable "movies"))
    searchIndex := given.searchIndex.getD (.ofText? (env.nonEmpty? indexVariable))
    journalPath := given.journalPath.getD
      (.ofText? ((env.nonEmpty? journalVariable).map Text.normalPath)) }

end SearchSettings
end DocSearch
