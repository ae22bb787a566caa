import DocSearch.Datum.Basic
import DocSearch.Numeric.Double

/-! # Declarations of records

A record declares its fields in order, those of what it extends first. A field may have another
name in stored documents than in the record; what a record does not declare it does not take. What a
field of a type holds is a type of its own, so a record holds nothing that does not fit. -/

namespace DocSearch

/-- Whether a document has to have a field. An optional one may be null, and is if left out. -/
inductive Demand where
  | required
  | optional
  deriving DecidableEq, Inhabited

/-- What a field holds whose values are of a type. -/
def Demand.Content : Demand → Type → Type
  | .required, α => α
  | .optional, α => Option α

/-- A field of a record. -/
structure Field where
  name : String
  /-- The name in stored documents, if it has one of its own. -/
  stored : Option String := none
  demand : Demand := .required
  deriving DecidableEq, Inhabited

namespace Field

/-- What a document may call the field: its stored name, if it has one, and its name unless that has
to be the stored one. -/
def keys (byName : Bool) (f : Field) : List String :=
  match f.stored with
  | none => [f.name]
  | some stored => if byName then [stored, f.name] else [stored]

/-- Where the field is reported missing. -/
def place (f : Field) : String := f.stored.getD f.name

end Field

mutual
/-- The type of what a field holds. A record may be populated by the names of its fields beside
their stored names. -/
inductive FieldType where
  | text
  | integer
  | number
  | choice (texts : List String)
  | list (item : FieldType)
  | record (name : String) (byName : Bool) (fields : Fields)

/-- The fields of a record, in the order of declaration. -/
inductive Fields where
  | nil
  | cons (field : Field) (type : FieldType) (rest : Fields)
end

mutual
/-- What is held by a field of a type. -/
def FieldType.Content : FieldType → Type
  | .text => String
  | .integer => Int
  | .number => Double
  | .choice texts => { s : String // s ∈ texts }
  | .list item => List item.Content
  | .record _ _ fields => fields.Content

def Fields.Content : Fields → Type
  | .nil => Unit
  | .cons field type rest => field.demand.Content type.Content × rest.Content
end

def Fields.toList : Fields → List (Field × FieldType)
  | .nil => []
  | .cons field type rest => (field, type) :: rest.toList

/-- The first of several keys that a document has, with its value. -/
def firstOf (d : Entries Datum) : List String → Option (String × Datum)
  | [] => none
  | key :: rest =>
    match d.get? key with
    | some v => some (key, v)
    | none => firstOf d rest

namespace Demand

variable {α : Type}

/-- What is read of a field that a document may have under some key. -/
def read (demand : Demand) (place : String) (validate : Datum → Checked α) :
    Option (String × Datum) → Checked (demand.Content α) :=
  match demand with
  | .required => fun
    | none => .error [⟨[.key place], .missing⟩]
    | some (key, v) => (validate v).under (.key key)
  | .optional => fun
    | none | some (_, .null) => .ok none
    | some (key, v) => ((validate v).under (.key key)).map some

/-- What is written of a field. -/
def write (demand : Demand) (dump : α → Value) : demand.Content α → Value :=
  match demand with
  | .required => dump
  | .optional => fun
    | none => .null
    | some a => dump a

end Demand
end DocSearch
