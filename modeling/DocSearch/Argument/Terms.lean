import DocSearch.Argument.Basic

/-! # Terms and paths from arguments -/

namespace DocSearch

/-- The texts of a list, up to the first item that is none. -/
def Terms.texts (role : TermRole) : List Argument → Except Fault (List String)
  | [] => .ok []
  | .str s :: rest => (texts role rest).map (s :: ·)
  | a :: _ => .error (.notTextTerm role a.quoted)

/-- One text or a list of at least one. -/
def Terms.ofArgument (role : TermRole) : Argument → Except Fault Terms
  | .null => .error (.absent role.typeName)
  | .str s => .ok (.single s)
  | .list items =>
    match Terms.texts role items with
    | .error fault => .error fault
    | .ok [] => .error (.noTerms role)
    | .ok (first :: rest) => .ok (.many first rest)
  | a => .error (.notTerms role a.kindName)

/-- Exactly one text. -/
def Terms.ofOne : Argument → Except Fault Terms
  | .str s => .ok (.single s)
  | a => .error (.notText a.kindName)

/-- A list, never a lone text. -/
def Terms.ofMany (role : TermRole) : Argument → Except Fault Terms
  | .str _ => .error .loneTextForMany
  | a => Terms.ofArgument role a

namespace QueryTerm

def new (a : Argument) : Except Fault QueryTerm := (Terms.ofArgument .query a).map .mk

def single (a : Argument) : Except Fault QueryTerm := (Terms.ofOne a).map .mk

def many (a : Argument) : Except Fault QueryTerm := (Terms.ofMany .query a).map .mk

/-- A term as it is, or one made of the argument. -/
def of : Argument → Except Fault QueryTerm
  | .made (.term t) => .ok t
  | a => new a

end QueryTerm

namespace FieldPath

def new (a : Argument) : Except Fault FieldPath := (Terms.ofArgument .path a).map .mk

def single (a : Argument) : Except Fault FieldPath := (Terms.ofOne a).map .mk

def many (a : Argument) : Except Fault FieldPath := (Terms.ofMany .path a).map .mk

/-- A path as it is, or one made of the argument. -/
def of : Argument → Except Fault FieldPath
  | .made (.path p) => .ok p
  | a => new a

end FieldPath
end DocSearch
