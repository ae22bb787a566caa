import DocSearch.Fault
import DocSearch.Query.Compound

/-! # Unchecked slots

Some slots of a definition take whatever they are given and look at it only when the definition is
rendered: a line takes any things for points, and asks each for its coordinates in the end. A datum
is what such a slot holds: plain data at any depth, with definitions among it. A definition is kept
by what can be asked of it: its type, the parts it is compared by, its document and its
coordinates. -/

namespace DocSearch

/-- What an unchecked slot holds. -/
inductive Datum where
  | null
  | bool (b : Bool)
  | int (n : Int)
  | float (x : Double)
  | str (s : String)
  | list (items : List Datum)
  | object (entries : List (String × Datum))
  /-- A definition. -/
  | made (typeName : String) (parts : List Datum) (document coordinates : Except Fault Value)
  /-- A compound builder as it stands, by its name if it has one. -/
  | builder (name : Option String) (c : Compound)
  deriving Inhabited

namespace Datum

/-- The name of a datum's kind in messages. -/
def kindName : Datum → String
  | .null => "NoneType"
  | .bool _ => "bool"
  | .int _ => "int"
  | .float _ => "float"
  | .str _ => "str"
  | .list _ => "list"
  | .object _ => "dict"
  | .made typeName .. => typeName
  | .builder .. => Compound.typeName

/-! ## Asking for documents and coordinates -/

/-- The fault of asking a thing of a kind for an operation that it lacks. -/
def lacking (operation kind : String) : Fault := .noOperation kind operation

/-- The document of a datum. Plain data has none. -/
def render : Datum → Except Fault Value
  | .made _ _ document _ => document
  | .builder _ c => .ok (.object c.render)
  | d => .error (lacking "render" d.kindName)

/-- The coordinates of a datum. Only points and what is drawn of points have some. -/
def coordinates : Datum → Except Fault Value
  | .made _ _ _ coordinates => coordinates
  | d => .error (lacking "render_coordinates" d.kindName)

/-- A definition that has a document and no coordinates. -/
def ofDocument (typeName : String) (parts : List Datum) (document : Except Fault Value) : Datum :=
  .made typeName parts document (.error (lacking "render_coordinates" typeName))

/-- A definition that has neither. -/
def ofParts (typeName : String) (parts : List Datum) : Datum :=
  ofDocument typeName parts (.error (lacking "render" typeName))

/-- A part that may be missing, null in its place. -/
def ofOption {α : Type} (datum : α → Datum) : Option α → Datum
  | none => .null
  | some a => datum a

/-! ## Plain data -/

mutual
def ofValue : Value → Datum
  | .null => .null
  | .bool b => .bool b
  | .int n => .int n
  | .float x => .float x
  | .str s => .str s
  | .list items => .list (ofItems items)
  | .object entries => .object (ofDocumentEntries entries)

def ofItems : List Value → List Datum
  | [] => []
  | v :: rest => ofValue v :: ofItems rest

def ofDocumentEntries : Document → Entries Datum
  | [] => []
  | (key, v) :: rest => (key, ofValue v) :: ofDocumentEntries rest
end

def ofNumber (n : Number) : Datum := ofValue (.ofNumber n)

mutual
/-- A datum as part of a document. A definition has no place in one. -/
def value : Datum → Except Fault Value
  | .null => .ok .null
  | .bool b => .ok (.bool b)
  | .int n => .ok (.int n)
  | .float x => .ok (.float x)
  | .str s => .ok (.str s)
  | .list items => (values items).map .list
  | .object entries => (document entries).map .object
  | .made typeName .. => .error (lacking "encode" typeName)
  | .builder .. => .error (lacking "encode" Compound.typeName)

def values : List Datum → Except Fault (List Value)
  | [] => .ok []
  | d :: rest => do
    let v ← value d
    let vs ← values rest
    return v :: vs

/-- The document of entries. -/
def document : Entries Datum → Except Fault Document
  | [] => .ok []
  | (key, d) :: rest => do
    let v ← value d
    let entries ← document rest
    return (key, v) :: entries
end

mutual
/-- Plain data goes into a slot and comes out as it was. -/
@[simp] theorem value_ofValue : ∀ v : Value, (ofValue v).value = .ok v
  | .null | .bool _ | .int _ | .float _ | .str _ => rfl
  | .list items => by simp [ofValue, value, values_ofItems items, Except.map]
  | .object entries => by
    simp [ofValue, value, document_ofDocumentEntries entries, Except.map]

@[simp] theorem values_ofItems : ∀ items : List Value, values (ofItems items) = .ok items
  | [] => rfl
  | v :: rest => by
    rw [ofItems, values, value_ofValue v, values_ofItems rest]
    rfl

@[simp] theorem document_ofDocumentEntries :
    ∀ entries : Document, document (ofDocumentEntries entries) = .ok entries
  | [] => rfl
  | (key, v) :: rest => by
    rw [ofDocumentEntries, document, value_ofValue v, document_ofDocumentEntries rest]
    rfl
end

def toNumber? : Datum → Option Number
  | .bool b => some (.flag b)
  | .int n => some (.whole n)
  | .float x => some (.real x)
  | _ => none

/-- Whether a datum counts as true: null, zero and what is empty do not, every definition does. -/
def truthy : Datum → Bool
  | .null => false
  | .bool b => b
  | .int n => n != 0
  | .float x => !x.isZero
  | .str s => s != ""
  | .list items => !items.isEmpty
  | .object entries => !entries.isEmpty
  | .made .. | .builder .. => true

/-- The things that a datum holds one after the other: items, keys or characters. -/
def items? : Datum → Option (List Datum)
  | .list items => some items
  | .object entries => some (entries.map fun entry => .str entry.1)
  | .str s => some (s.toList.map fun c => .str (String.singleton c))
  | _ => none

/-! ## Equality -/

mutual
/-- Equality: numbers by value, lists item by item, objects whatever the order of their keys, and
definitions by their type and parts. A builder is equal to nothing but itself, which its name tells. -/
def same : Datum → Datum → Bool
  | .null, .null => true
  | .bool a, d => d.toNumber?.any (Number.same (.flag a))
  | .int a, d => d.toNumber?.any (Number.same (.whole a))
  | .float a, d => d.toNumber?.any (Number.same (.real a))
  | .str a, .str b => a == b
  | .list as, .list bs => sameItems as bs
  | .object as, .object bs => as.length == bs.length && sameEntries as bs
  | .made a as _ _, .made b bs _ _ => a == b && sameItems as bs
  | .builder (some a) _, .builder (some b) _ => a == b
  | _, _ => false

def sameItems : List Datum → List Datum → Bool
  | [], [] => true
  | a :: as, b :: bs => same a b && sameItems as bs
  | _, _ => false

/-- Whether every entry has an equal one under the same key in `other`. -/
def sameEntries : Entries Datum → Entries Datum → Bool
  | [], _ => true
  | (key, a) :: rest, other =>
    (match other.get? key with
      | some b => same a b
      | none => false) && sameEntries rest other
end

/-- Whether a datum is equal to itself: all are but the undefined number. Inside lists, objects and
definitions a thing is looked for by itself first. -/
def equalsItself : Datum → Bool
  | .float .nan => false
  | _ => true

end Datum
end DocSearch
