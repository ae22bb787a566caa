import DocSearch.Datum.Basic

/-! # Search terms and field paths

A clause searches for one text or several, in one field or several. One text and a list of one are
different things, in a document as well. -/

namespace DocSearch

/-- One text, or a list of at least one. -/
inductive Terms where
  | single (text : String)
  | many (first : String) (rest : List String)
  deriving DecidableEq, Inhabited

namespace Terms

def isMulti : Terms → Bool
  | .single _ => false
  | .many .. => true

def render : Terms → Value
  | .single text => .str text
  | .many first rest => .list ((first :: rest).map .str)

/-- What terms are compared by. -/
def parts (t : Terms) : List Datum := [.ofValue t.render]

end Terms

/-- What is searched for. -/
structure QueryTerm where
  terms : Terms
  deriving DecidableEq, Inhabited

/-- Where it is searched. -/
structure FieldPath where
  terms : Terms
  deriving DecidableEq, Inhabited

def QueryTerm.render (t : QueryTerm) : Value := t.terms.render

def FieldPath.render (p : FieldPath) : Value := p.terms.render

def QueryTerm.datum (t : QueryTerm) : Datum :=
  .ofDocument (TermRole.typeName .query) t.terms.parts (.ok t.render)

def FieldPath.datum (p : FieldPath) : Datum :=
  .ofDocument (TermRole.typeName .path) p.terms.parts (.ok p.render)

end DocSearch
