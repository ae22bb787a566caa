import DocSearch.Numeric.Number

/-! # Document values

A value is what a query document, a stored document or a configuration field holds. An object keeps
its entries in the order of insertion; `Entries.set` overwrites in place and appends a new key, so
what is built with it names each key once. -/

namespace DocSearch

/-- Plain data. -/
inductive Value where
  | null
  | bool (b : Bool)
  | int (n : Int)
  | float (x : Double)
  | str (s : String)
  | list (items : List Value)
  | object (entries : List (String × Value))
  deriving Inhabited

/-- Things under keys, in order. -/
abbrev Entries (α : Type) := List (String × α)

/-- The entries of an object. -/
abbrev Document := Entries Value

namespace Entries

variable {α : Type}

/-- What is under a key. -/
def get? (key : String) (d : Entries α) : Option α := d.lookup key

def contains (key : String) (d : Entries α) : Bool := d.any fun entry => entry.1 == key

/-- The entries with one more: in the key's place if it has one, else at the end. -/
def set (key : String) (value : α) : Entries α → Entries α
  | [] => [(key, value)]
  | (k, v) :: rest => if k = key then (k, value) :: rest else (k, v) :: set key value rest

theorem get?_cons (key k : String) (v : α) (d : Entries α) :
    get? key ((k, v) :: d) = if key = k then some v else get? key d := by
  by_cases h : key = k
  · simp [get?, h]
  · have h' : (key == k) = false := beq_eq_false_iff_ne.2 h
    simp [get?, List.lookup_cons, h, h']

theorem get?_set_self (key : String) (value : α) (d : Entries α) :
    get? key (set key value d) = some value := by
  induction d with
  | nil => simp [set, get?_cons]
  | cons entry rest ih =>
    obtain ⟨k, v⟩ := entry
    by_cases h : k = key
    · simp [set, h, get?_cons]
    · have h' : ¬key = k := fun e => h e.symm
      simp [set, h, h', get?_cons, ih]

theorem get?_set_of_ne {key other : String} (h : other ≠ key) (value : α) (d : Entries α) :
    get? other (set key value d) = get? other d := by
  induction d with
  | nil => simp [set, get?_cons, h]
  | cons entry rest ih =>
    obtain ⟨k, v⟩ := entry
    by_cases hk : k = key
    · subst hk
      simp [set, get?_cons, h]
    · simp [set, hk, get?_cons, ih]

/-- The entries without a key. -/
def erase (key : String) (d : Entries α) : Entries α := d.filter fun entry => entry.1 != key

/-- The entries of `update` set in order. -/
def merge (d update : Entries α) : Entries α :=
  update.foldl (fun acc entry => set entry.1 entry.2 acc) d

/-- The entries of a list of pairs, in which a repeated key keeps its first place and takes what
comes last. -/
def ofList (pairs : List (String × α)) : Entries α := merge [] pairs

def keys (d : Entries α) : List String := d.map (·.1)

/-- Setting a key keeps the order of the keys that were there before, and adds a new one behind
them. -/
theorem keys_set (key : String) (value : α) (d : Entries α) :
    keys (set key value d) = if key ∈ keys d then keys d else keys d ++ [key] := by
  induction d with
  | nil => simp [set, keys]
  | cons entry rest ih =>
    obtain ⟨k, v⟩ := entry
    by_cases h : k = key
    · simp [set, keys, h]
    · have h' : ¬key = k := fun e => h e.symm
      have ih' : (set key value rest).map (·.1)
          = if key ∈ rest.map (·.1) then rest.map (·.1) else rest.map (·.1) ++ [key] := ih
      simp only [set, keys, h, h', if_false, List.map_cons, List.mem_cons, false_or, ih']
      split <;> rfl

end Entries

namespace Value

/-- The name of a value's kind in messages. -/
def kindName : Value → String
  | .null => "NoneType"
  | .bool _ => "bool"
  | .int _ => "int"
  | .float _ => "float"
  | .str _ => "str"
  | .list _ => "list"
  | .object _ => "dict"

def ofNumber : Number → Value
  | .flag b => .bool b
  | .whole n => .int n
  | .real x => .float x

def toNumber? : Value → Option Number
  | .bool b => some (.flag b)
  | .int n => some (.whole n)
  | .float x => some (.real x)
  | _ => none

/-- Whether a value counts as true: null, zero and what is empty do not. -/
def truthy : Value → Bool
  | .null => false
  | .bool b => b
  | .int n => n != 0
  | .float x => !x.isZero
  | .str s => s != ""
  | .list items => !items.isEmpty
  | .object entries => !entries.isEmpty

def isNull : Value → Bool
  | .null => true
  | _ => false

/-- A text, or null for none. -/
def ofText? : Option String → Value
  | some s => .str s
  | none => .null

end Value
end DocSearch
