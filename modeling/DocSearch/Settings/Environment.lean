/-! # Environments

The variables that a program is started with. A variable that is set to the empty text is set; some
settings treat that as if it were not. -/

namespace DocSearch

/-- The values of variables by name. -/
abbrev Environment := List (String × String)

namespace Environment

def get? (env : Environment) (name : String) : Option String := env.lookup name

/-- A variable, or what stands for one that is not set. -/
def getOr (env : Environment) (name default : String) : String := (env.get? name).getD default

/-- A variable that is set to something. -/
def nonEmpty? (env : Environment) (name : String) : Option String :=
  (env.get? name).filter (· ≠ "")

end Environment

/-- The variable with the address of the deployment. Searches and index work share it. -/
def connectionVariable : String := "MONGODB_URI"

/-- The variable with the name of the search index. Searches and index work share it. -/
def indexVariable : String := "ATLAS_SEARCH_INDEX"

/-- The name that the server gives to an index without one. -/
def serverDefaultIndex : String := "default"

end DocSearch
