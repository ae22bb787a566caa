import DocSearch.Datum.Basic
import DocSearch.Numeric.Decimal

/-! # Data that stand for objects

Where an object is asked for, a list of pairs will do as well, or a text if it is empty or its
characters were pairs. A pair is whatever holds two things: a list of two, an object of two keys or a
text of two characters. -/

namespace DocSearch

namespace Datum

/-- The key that a datum gives: a text, or the written form of a number or of null. Lists and objects
are no keys. -/
def key : Datum → Except Fault String
  | .str s => .ok s
  | .null => .ok "null"
  | .bool b => .ok (if b then "true" else "false")
  | .int n => .ok (toString n)
  | .float x => .ok x.text
  | .list _ => .error (.notKey (Datum.list []).kindName)
  | .object _ => .error (.notKey (Datum.object []).kindName)
  | d => .error (lacking "encode" d.kindName)

/-- The pair that a datum holds at a place in a list. -/
def pairAt (index : Nat) (d : Datum) : Except Fault (Datum × Datum) :=
  match d.items? with
  | some [first, second] => .ok (first, second)
  | some items => .error (.notAPair index items.length)
  | none => .error (.pairNotIterable index)

/-- The entries of the pairs from a place on, after those in front of them. -/
def collect (index : Nat) (acc : Entries Datum) : List Datum → Except Fault (Entries Datum)
  | [] => .ok acc
  | d :: rest => do
    let (first, second) ← pairAt index d
    let key ← first.key
    collect (index + 1) (acc.set key second) rest

/-- The entries of a datum that stands for an object. -/
def entries (d : Datum) : Except Fault (Entries Datum) :=
  match d with
  | .object entries => .ok entries
  | d =>
    match d.items? with
    | some items => collect 0 [] items
    | none => .error (.notIterable d.kindName)

/-- The document of a datum that stands for an object. -/
def toDocument (d : Datum) : Except Fault Document := d.entries >>= document

/-- A document stands for itself. -/
@[simp] theorem toDocument_ofValue_object (d : Document) :
    (ofValue (.object d)).toDocument = .ok d := document_ofDocumentEntries d

end Datum
end DocSearch
