import DocSearch.Numeric.Reading
import DocSearch.Record.Library

/-! # A lenient library

Readers turn a datum into what a field holds, or report what is wrong with it. They are lenient
about numbers: a text that names one is taken, and so are truth values. No field takes a definition.
Reading two fields reports the issues of both, those of the first before those of the second. -/

namespace DocSearch

namespace Mismatch

def notText : Mismatch := ⟨"string_type", "Input should be a valid string"⟩

def notInteger : Mismatch := ⟨"int_type", "Input should be a valid integer"⟩

def unreadableInteger : Mismatch :=
  ⟨"int_parsing", "Input should be a valid integer, unable to parse string as an integer"⟩

def fractionalInteger : Mismatch :=
  ⟨"int_from_float", "Input should be a valid integer, got a number with a fractional part"⟩

def infiniteInteger : Mismatch := ⟨"finite_number", "Input should be a finite number"⟩

def oversizedInteger : Mismatch :=
  ⟨"int_parsing_size", "Unable to parse input string as an integer, exceeded maximum size"⟩

def notNumber : Mismatch := ⟨"float_type", "Input should be a valid number"⟩

def unreadableNumber : Mismatch :=
  ⟨"float_parsing", "Input should be a valid number, unable to parse string as a number"⟩

def notList : Mismatch := ⟨"list_type", "Input should be a valid list"⟩

def notRecord (recordName : String) : Mismatch :=
  ⟨"model_type", "Input should be a valid dictionary or instance of " ++ recordName⟩

/-- Choices as a sentence lists them: commas, and `or` before the last. -/
def listChoices : List String → String
  | [] => ""
  | [only] => only
  | [left, right] => left ++ " or " ++ right
  | first :: rest => first ++ ", " ++ listChoices rest

def notChoice (choices : List String) : Mismatch :=
  ⟨"literal_error",
    "Input should be " ++ listChoices (choices.map fun choice => "'" ++ choice ++ "'")⟩

end Mismatch

namespace Reader

def text : Datum → Checked String
  | .str s => .ok s
  | _ => .fail .notText

/-- The integer that a finite number stands for; it has to fit in 64 bits. -/
def integerOfDouble (x : Double) : Checked Int :=
  match x.toRat? with
  | none => .fail .infiniteInteger
  | some q =>
    if q.den ≠ 1 then .fail .fractionalInteger
    else if q.num.natAbs < power 2 63 then .ok q.num
    else .fail .oversizedInteger

def integer : Datum → Checked Int
  | .int n => .ok n
  | .bool b => .ok (if b then 1 else 0)
  | .float x => integerOfDouble x
  | .str s =>
    match Numeral.recordInteger s with
    | .ok n => .ok n
    | .error .malformed => .fail .unreadableInteger
    | .error (.tooLong _) => .fail .oversizedInteger
  | _ => .fail .notInteger

/-- A number. An integer beyond the finite range is none. -/
def number : Datum → Checked Double
  | .int n =>
    let x := Double.ofInt n
    if x.isFinite then .ok x else .fail .notNumber
  | .bool b => .ok (Double.ofInt (if b then 1 else 0))
  | .float x => .ok x
  | .str s =>
    match Numeral.recordDouble? s with
    | some x => .ok x
    | none => .fail .unreadableNumber
  | _ => .fail .notNumber

/-- One of a few texts. -/
def choice (texts : List String) : Datum → Checked { s : String // s ∈ texts }
  | .str s => if h : s ∈ texts then .ok ⟨s, h⟩ else .fail (.notChoice texts)
  | _ => .fail (.notChoice texts)

/-- The items from position `index` on. -/
def itemsFrom {α : Type} (read : Datum → Checked α) : Nat → List Datum → Checked (List α)
  | _, [] => .ok []
  | index, v :: rest =>
    (((read v).under (.index index)).both (itemsFrom read (index + 1) rest)).map
      fun (a, as) => a :: as

def list {α : Type} (read : Datum → Checked α) : Datum → Checked (List α)
  | .list items => itemsFrom read 0 items
  | _ => .fail .notList

/-- A document of a named kind. -/
def record {α : Type} (name : String) (read : Entries Datum → Checked α) : Datum → Checked α
  | .object entries => read entries
  | _ => .fail (.notRecord name)

mutual
/-- What a datum holds of a type. -/
def value : (type : FieldType) → Datum → Checked type.Content
  | .text => text
  | .integer => integer
  | .number => number
  | .choice texts => choice texts
  | .list item => list (value item)
  | .record name byName fields => record name (values byName fields)

def values (byName : Bool) : (fields : Fields) → Entries Datum → Checked fields.Content
  | .nil, _ => .ok ()
  | .cons f type rest, d =>
    (f.demand.read f.place (value type) (firstOf d (f.keys byName))).both (values byName rest d)
end

end Reader

namespace Writer

mutual
/-- What a field of a type is written as. -/
def value : (type : FieldType) → type.Content → Value
  | .text => .str
  | .integer => .int
  | .number => .float
  | .choice _ => fun s => .str s.val
  | .list item => fun as => .list (as.map (value item))
  | .record _ _ fields => fun a => .object (entries fields a)

def entries : (fields : Fields) → fields.Content → Document
  | .nil, _ => []
  | .cons f type rest, (a, b) => (f.name, f.demand.write (value type) a) :: entries rest b
end

end Writer

/-- The library that reads leniently. -/
def Library.lenient : Library where
  validate := Reader.value
  dump := Writer.value

end DocSearch
