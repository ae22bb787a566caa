import DocSearch.Search.Server

/-! # Settings of index work

Which deployment the indexes are kept in, what they are called, and which collections they belong
to. Only the address has no default. -/

namespace DocSearch

/-- The settings of index work. Both collections have an index of the one name. -/
structure IndexSettings where
  address : String
  indexName : String
  movies : Namespace
  listings : Namespace
  deriving DecidableEq, Inhabited

namespace IndexSettings

def moviesDatabaseVariable : String := "MOVIES_DATABASE"
def moviesCollectionVariable : String := "MOVIES_COLLECTION"
def listingsDatabaseVariable : String := "LISTINGS_DATABASE"
def listingsCollectionVariable : String := "LISTINGS_COLLECTION"

/-- How long index work waits for a server, in milliseconds. -/
def timeoutMs : Int := 30000

/-- The settings of an environment. -/
def load (env : Environment) : Except Fault IndexSettings :=
  match env.get? connectionVariable with
  | none => .error (.missingKey connectionVariable)
  | some address => .ok {
      address := address
      indexName := env.getOr indexVariable serverDefaultIndex
      movies := ⟨env.getOr moviesDatabaseVariable "sample_mflix",
        env.getOr moviesCollectionVariable "movies"⟩
      listings := ⟨env.getOr listingsDatabaseVariable "sample_airbnb",
        env.getOr listingsCollectionVariable "listingsAndReviews"⟩ }

/-- The connection that index work is done over. -/
def connection (s : IndexSettings) : Connection := ⟨.str s.address, .int timeoutMs⟩

end IndexSettings
end DocSearch
