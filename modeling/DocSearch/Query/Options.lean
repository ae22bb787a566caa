import DocSearch.Query.Terms

/-! # Fuzzy and highlight options

Only the settings that differ from their defaults are written. -/

namespace DocSearch

/-- The entry for a setting, unless it has its default value. -/
def unlessDefault (key : String) (value : Number) (default : Int) : Document :=
  if value.same (.whole default) then [] else [(key, .ofNumber value)]

/-- How far a text may differ from a term and still match it. -/
structure FuzzyOptions where
  maxEdits : Number
  prefixLength : Number
  maxExpansions : Number
  deriving DecidableEq

namespace FuzzyOptions

def defaultMaxEdits : Int := 2
def defaultPrefixLength : Int := 0
def defaultMaxExpansions : Int := 50

/-- The options with every setting at its default. -/
def standard : FuzzyOptions :=
  ⟨.whole defaultMaxEdits, .whole defaultPrefixLength, .whole defaultMaxExpansions⟩

instance : Inhabited FuzzyOptions := ⟨standard⟩

def typeName : String := "FuzzyOptions"

def render (o : FuzzyOptions) : Value :=
  .object (unlessDefault "maxEdits" o.maxEdits defaultMaxEdits
    ++ unlessDefault "prefixLength" o.prefixLength defaultPrefixLength
    ++ unlessDefault "maxExpansions" o.maxExpansions defaultMaxExpansions)

def datum (o : FuzzyOptions) : Datum :=
  .ofDocument typeName [.ofNumber o.maxEdits, .ofNumber o.prefixLength, .ofNumber o.maxExpansions]
    (.ok o.render)

end FuzzyOptions

/-- Which passages around the hits come back with a result. -/
structure HighlightOptions where
  path : FieldPath
  maxCharacters : Number
  maxPassages : Number
  deriving DecidableEq, Inhabited

namespace HighlightOptions

def defaultMaxCharacters : Int := 500000
def defaultMaxPassages : Int := 5

def typeName : String := "HighlightOptions"

def render (o : HighlightOptions) : Value :=
  .object (("path", o.path.render)
    :: (unlessDefault "maxCharactersToExamine" o.maxCharacters defaultMaxCharacters
      ++ unlessDefault "maxNumPassages" o.maxPassages defaultMaxPassages))

def datum (o : HighlightOptions) : Datum :=
  .ofDocument typeName [o.path.datum, .ofNumber o.maxCharacters, .ofNumber o.maxPassages]
    (.ok o.render)

end HighlightOptions
end DocSearch
