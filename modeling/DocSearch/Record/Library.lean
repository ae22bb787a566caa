import DocSearch.Record.Schema

/-! # Reading and writing records

Records are read and written by a library that goes by their declarations. The library itself is a
parameter: what is said of records rests on what is known of it, which is laid down here, one
sentence for each way in which declarations are put together. -/

namespace DocSearch

/-- A library that reads documents and writes records. -/
structure Library where
  validate (type : FieldType) : Datum → Checked type.Content
  dump (type : FieldType) : type.Content → Value

namespace Library

/-- What a library makes of one field of a document, as if there were no other. -/
def field (L : Library) (byName : Bool) (d : Entries Datum) (f : Field) (type : FieldType) :
    Checked (f.demand.Content type.Content) :=
  f.demand.read f.place (L.validate type) (firstOf d (f.keys byName))

/-- How records are read. Each field is looked up and read whatever comes of the others, and what is
wrong with it is reported before what is wrong with those declared behind it. -/
structure ReadsRecords (L : Library) : Prop where
  empty : ∀ name byName d, L.validate (.record name byName .nil) (.object d) = .ok ()
  taken : ∀ name byName f type rest d a b, L.field byName d f type = .ok a →
    L.validate (.record name byName rest) (.object d) = .ok b →
    L.validate (.record name byName (.cons f type rest)) (.object d) = .ok (a, b)
  refused : ∀ name byName f type rest d issues,
    (L.field byName d f type = .error issues ∨
      L.validate (.record name byName rest) (.object d) = .error issues) →
    L.validate (.record name byName (.cons f type rest)) (.object d)
      = .error ((L.field byName d f type).issues
        ++ (L.validate (.record name byName rest) (.object d)).issues)

/-- How lists are read. Each item is read whatever comes of those before it, and what is wrong with
it is reported behind what is wrong with them, at its position. -/
structure ReadsLists (L : Library) : Prop where
  empty : ∀ type, L.validate (.list type) (.list []) = .ok []
  taken : ∀ (type : FieldType) items v (as : List type.Content) a,
    L.validate (.list type) (.list items) = .ok as →
    L.validate type v = .ok a → L.validate (.list type) (.list (items ++ [v])) = .ok (as ++ [a])
  refused : ∀ type items v issues,
    (L.validate (.list type) (.list items) = .error issues ∨
      L.validate type v = .error issues) →
    L.validate (.list type) (.list (items ++ [v]))
      = .error ((L.validate (.list type) (.list items)).issues
        ++ ((L.validate type v).under (.index items.length)).issues)

/-- The datum has parts, and not those that a value of the type has. -/
def misfits : FieldType → Datum → Bool
  | .list _, .list _ | .record .., .object _ => false
  | _, .list _ | _, .object _ => true
  | _, _ => false

/-- What has other parts than a type asks for is refused for that, whatever the parts are. -/
def RefusesMisfits (L : Library) : Prop :=
  ∀ type, ∃ mismatch, ∀ d, misfits type d = true → L.validate type d = .fail mismatch

/-- Values that are of a type already are taken as they are. -/
structure KeepsValues (L : Library) : Prop where
  text : ∀ s, L.validate .text (.str s) = .ok s
  integer : ∀ n, L.validate .integer (.int n) = .ok n
  number : ∀ x, L.validate .number (.float x) = .ok x
  choice : ∀ texts s (h : s ∈ texts), L.validate (.choice texts) (.str s) = .ok ⟨s, h⟩

/-- How records are written: each field under its name, with all that it holds. -/
structure WritesRecords (L : Library) : Prop where
  text : ∀ s, L.dump .text s = .str s
  integer : ∀ n, L.dump .integer n = .int n
  number : ∀ x, L.dump .number x = .float x
  choice : ∀ texts s (h : s ∈ texts), L.dump (.choice texts) ⟨s, h⟩ = .str s
  list : ∀ type as, L.dump (.list type) as = .list (as.map (L.dump type))
  empty : ∀ name byName, L.dump (.record name byName .nil) () = .object []
  entry : ∀ name byName f type rest a b d, L.dump (.record name byName rest) b = .object d →
    L.dump (.record name byName (.cons f type rest)) (a, b)
      = .object ((f.name, f.demand.write (L.dump type) a) :: d)

end Library
end DocSearch
