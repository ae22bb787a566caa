import DocSearch.Query.Score
import DocSearch.Query.Shape
import DocSearch.Query.Options

/-! # Search clauses

A clause renders to a document with one key, the operator. A leaf's body has its path first, then its
query, its score and the operator's own settings, in this order, so equal clauses give equal texts.
Of fuzzy options only the document is asked for, and only when the clause is rendered. -/

namespace DocSearch

/-- How a text search matches beyond the exact word: by closeness or by a synonym mapping. -/
inductive Matching where
  | fuzzy (options : Datum)
  | synonyms (mapping : String)
  deriving Inhabited

namespace Matching

def typeName : Matching → String
  | .fuzzy _ => "FuzzyMatching"
  | .synonyms _ => "SynonymMatching"

def entry : Matching → Except Fault (String × Value)
  | .fuzzy options => options.render.map fun document => ("fuzzy", document)
  | .synonyms mapping => .ok ("synonyms", .str mapping)

def options? : Matching → Option Datum
  | .fuzzy options => some options
  | .synonyms _ => none

def mapping? : Matching → Option String
  | .fuzzy _ => none
  | .synonyms mapping => some mapping

/-- A matching mode is part of a text clause and has no document of its own. -/
def datum (m : Matching) : Datum :=
  .ofParts m.typeName (match m with
    | .fuzzy options => [options]
    | .synonyms mapping => [.str mapping])

end Matching

/-- The order in which the tokens of a partial query have to appear. -/
inductive TokenOrder where
  | any
  | sequential
  deriving DecidableEq, Inhabited

namespace TokenOrder

def name : TokenOrder → String
  | .any => "any"
  | .sequential => "sequential"

def ofName? (s : String) : Option TokenOrder :=
  [.any, .sequential].find? fun order => order.name == s

end TokenOrder

/-- Search for words. -/
structure TextClause where
  query : QueryTerm
  path : FieldPath
  matching : Option Matching
  score : Option AdjustmentOptions

/-- Search for words in order; `slop` is the distance allowed between them. -/
structure PhraseClause where
  query : QueryTerm
  path : FieldPath
  score : Option AdjustmentOptions
  slop : Number

/-- Search for what begins like the query. -/
structure AutocompleteClause where
  query : QueryTerm
  path : FieldPath
  tokenOrder : TokenOrder
  fuzzy : Option Datum
  score : Option RescalingOptions

/-- Search for places in a region. -/
structure GeoWithinClause where
  shape : Shape
  path : FieldPath
  score : Option AdjustmentOptions

/-- A clause that holds no other clause. -/
inductive LeafClause where
  | text (c : TextClause)
  | phrase (c : PhraseClause)
  | autocomplete (c : AutocompleteClause)
  | geoWithin (c : GeoWithinClause)

namespace LeafClause

def typeName : LeafClause → String
  | .text _ => "TextClause"
  | .phrase _ => "PhraseClause"
  | .autocomplete _ => "AutocompleteClause"
  | .geoWithin _ => "GeoWithinClause"

def operator : LeafClause → String
  | .text _ => "text"
  | .phrase _ => "phrase"
  | .autocomplete _ => "autocomplete"
  | .geoWithin _ => "geoWithin"

def path : LeafClause → FieldPath
  | .text c => c.path
  | .phrase c => c.path
  | .autocomplete c => c.path
  | .geoWithin c => c.path

def query? : LeafClause → Option QueryTerm
  | .text c => some c.query
  | .phrase c => some c.query
  | .autocomplete c => some c.query
  | .geoWithin _ => none

/-- The rendered score, if one is given. -/
def renderScore : LeafClause → Option (Except Fault Value)
  | .text ⟨_, _, _, score⟩ | .phrase ⟨_, _, score, _⟩ | .geoWithin ⟨_, _, score⟩ =>
    score.map AdjustmentOptions.render
  | .autocomplete c => c.score.map RescalingOptions.render

/-- The entry of a part, if the part is given. -/
def entryOf (key : String) : Option (Except Fault Value) → Except Fault Document
  | none => .ok []
  | some rendered => rendered.map fun value => [(key, value)]

/-- The operator's own settings; those at their default are left out. -/
def settings : LeafClause → Except Fault Document
  | .text c =>
    match c.matching with
    | none => .ok []
    | some matching => matching.entry.map fun entry => [entry]
  | .phrase c => .ok (unlessDefault "slop" c.slop 0)
  | .autocomplete c => do
    let fuzzy ← entryOf "fuzzy" (c.fuzzy.map Datum.render)
    return (if c.tokenOrder = .any then [] else [("tokenOrder", .str c.tokenOrder.name)]) ++ fuzzy
  | .geoWithin c => entryOf c.shape.key (some c.shape.render)

def render (c : LeafClause) : Except Fault Document := do
  let score ← entryOf "score" c.renderScore
  let settings ← c.settings
  let query := (c.query?.map fun query => ("query", query.render)).toList
  return [(c.operator, .object (("path", c.path.render) :: (query ++ score ++ settings)))]

/-- What a clause is compared by. -/
def parts : LeafClause → List Datum
  | .text c =>
    [c.query.datum, c.path.datum, .ofOption Matching.datum c.matching,
      .ofOption AdjustmentOptions.datum c.score]
  | .phrase c =>
    [c.query.datum, c.path.datum, .ofOption AdjustmentOptions.datum c.score,
      .ofNumber c.slop]
  | .autocomplete c =>
    [c.query.datum, c.path.datum, .str c.tokenOrder.name, .ofOption id c.fuzzy,
      .ofOption RescalingOptions.datum c.score]
  | .geoWithin c =>
    [c.shape.datum, c.path.datum, .ofOption AdjustmentOptions.datum c.score]

def datum (c : LeafClause) : Datum := .ofDocument c.typeName c.parts (c.render.map .object)

end LeafClause

/-- A search clause. -/
inductive Clause where
  | leaf (c : LeafClause)
  | compound (c : Compound)

namespace Clause

def typeName : Clause → String
  | .leaf c => c.typeName
  | .compound _ => Compound.typeName

def operator : Clause → String
  | .leaf c => c.operator
  | .compound _ => Compound.operator

def render : Clause → Except Fault Document
  | .leaf c => c.render
  | .compound c => .ok c.render

def datum : Clause → Datum
  | .leaf c => c.datum
  | .compound c => .builder none c

end Clause
end DocSearch
