import DocSearch.Argument.Score
import DocSearch.Argument.Shape

/-! # Options and clauses from arguments -/

namespace DocSearch

def FuzzyOptions.of (maxEdits prefixLength maxExpansions : Argument) :
    Except Fault FuzzyOptions := do
  let maxEdits ← Setting.maxEdits.accept maxEdits
  let prefixLength ← Setting.prefixLength.accept prefixLength
  let maxExpansions ← Setting.maxExpansions.accept maxExpansions
  return ⟨maxEdits, prefixLength, maxExpansions⟩

def HighlightOptions.of (path maxCharacters maxPassages : Argument) :
    Except Fault HighlightOptions := do
  let path ← FieldPath.of path
  let maxCharacters ← Setting.maxCharacters.accept maxCharacters
  let maxPassages ← Setting.maxPassages.accept maxPassages
  return ⟨path, maxCharacters, maxPassages⟩

namespace Matching

/-- Matching by closeness takes its options unchecked. -/
def ofFuzzy (options : Argument) : Matching := .fuzzy options.datum

def ofSynonyms : Argument → Except Fault Matching
  | .str s => if s = "" then .error .noMappingName else .ok (.synonyms s)
  | _ => .error .noMappingName

/-- A matching mode handed over, or none. -/
def optional : Argument → Except Fault (Option Matching)
  | .null => .ok none
  | .made (.matching m) => .ok (some m)
  | a => .error (.notMatching a.kindName)

end Matching

namespace TextClause

def of (query path matching score : Argument) : Except Fault TextClause := do
  let query ← QueryTerm.of query
  let path ← FieldPath.of path
  let matching ← Matching.optional matching
  let score ← ScoreOptions.forSearch score
  return ⟨query, path, matching, score⟩

/-- A text search that matches close words. What counts as false stands for the standard options. -/
def fuzzy (query path options score : Argument) : Except Fault TextClause :=
  let options := if options.truthy then options else .made (.fuzzy .standard)
  of query path (.made (.matching (Matching.ofFuzzy options))) score

/-- A text search that matches synonyms. -/
def withSynonyms (query path synonyms score : Argument) : Except Fault TextClause := do
  let matching ← Matching.ofSynonyms synonyms
  of query path (.made (.matching matching)) score

end TextClause

def PhraseClause.of (query path score slop : Argument) : Except Fault PhraseClause := do
  let query ← QueryTerm.of query
  let path ← FieldPath.of path
  let slop ← Setting.slop.accept slop
  let score ← ScoreOptions.forSearch score
  return ⟨query, path, score, slop⟩

def TokenOrder.of : Argument → Except Fault TokenOrder
  | .str s =>
    match TokenOrder.ofName? s with
    | some order => .ok order
    | none => .error (.unknownTokenOrder s)
  | a => .error (.unknownTokenOrder a.display)

def AutocompleteClause.of (query path tokenOrder fuzzy score : Argument) :
    Except Fault AutocompleteClause := do
  let query ← QueryTerm.of query
  let path ← FieldPath.of path
  let tokenOrder ← TokenOrder.of tokenOrder
  let score ← ScoreOptions.forAutocomplete score
  return ⟨query, path, tokenOrder, fuzzy.ifGiven.map Argument.datum, score⟩

def Shape.of : Argument → Except Fault Shape
  | .made (.shape s) => .ok s
  | a => .error (.notShape a.kindName)

def GeoWithinClause.of (geometry path score : Argument) : Except Fault GeoWithinClause := do
  let shape ← Shape.of geometry
  let path ← FieldPath.of path
  let score ← ScoreOptions.forSearch score
  return ⟨shape, path, score⟩

/-- The clause that an argument is. -/
def Clause.of : Argument → Except Fault Clause
  | .made (.clause c) => .ok c
  | .made (.builder _ c) => .ok (.compound c)
  | a => .error (.notClause a.kindName)

/-- The document of an argument that has to be a clause. -/
def Clause.documentOf (a : Argument) : Except Fault Document := Clause.of a >>= Clause.render

end DocSearch
