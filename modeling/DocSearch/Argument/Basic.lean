import DocSearch.Datum.Display
import DocSearch.Query.Clause
import DocSearch.Query.Projection

/-! # Arguments

What a caller hands over to build a definition: plain data, or a definition built before. Each
definition checks its own arguments, one after the other, and the first that does not fit is
reported; the modules beside this one hold these checks. What is not checked is kept as a datum. -/

namespace DocSearch

/-- A definition that can be handed over. -/
inductive Definition where
  | term (t : QueryTerm)
  | path (p : FieldPath)
  | point (p : Point)
  | lineString (l : LineString)
  | shape (s : Shape)
  | fuzzy (o : FuzzyOptions)
  | highlight (o : HighlightOptions)
  | strategy (s : Strategy)
  | score (o : ScoreOptions)
  | matching (m : Matching)
  | clause (c : Clause)
  /-- A compound builder that has a name, as it stands. -/
  | builder (name : String) (c : Compound)
  | projection (p : Projection)

namespace Definition

def datum : Definition → Datum
  | .term t => t.datum
  | .path p => p.datum
  | .point p => p.datum
  | .lineString l => l.datum
  | .shape s => s.datum
  | .fuzzy o => o.datum
  | .highlight o => o.datum
  | .strategy s => s.datum
  | .score o => ScoreOptions.datum o
  | .matching m => m.datum
  | .clause c => c.datum
  | .builder name c => .builder (some name) c
  | .projection p => p.datum

def typeName (d : Definition) : String := d.datum.kindName

/-- The document of a definition. -/
def render (d : Definition) : Except Fault Value := d.datum.render

/-- Equality of definitions: the same type and equal parts. -/
def same (a b : Definition) : Bool := a.datum.same b.datum

end Definition

/-- What a caller hands over: plain data or a definition, at any depth. -/
inductive Argument where
  | null
  | bool (b : Bool)
  | int (n : Int)
  | float (x : Double)
  | str (s : String)
  | list (items : List Argument)
  | object (entries : List (String × Argument))
  | made (d : Definition)
  deriving Inhabited

namespace Argument

mutual
def ofValue : Value → Argument
  | .null => .null
  | .bool b => .bool b
  | .int n => .int n
  | .float x => .float x
  | .str s => .str s
  | .list items => .list (ofItems items)
  | .object entries => .object (ofEntries entries)

def ofItems : List Value → List Argument
  | [] => []
  | v :: rest => ofValue v :: ofItems rest

def ofEntries : Document → Entries Argument
  | [] => []
  | (key, v) :: rest => (key, ofValue v) :: ofEntries rest
end

mutual
/-- An argument as an unchecked slot keeps it. -/
def datum : Argument → Datum
  | .null => .null
  | .bool b => .bool b
  | .int n => .int n
  | .float x => .float x
  | .str s => .str s
  | .list items => .list (dataOf items)
  | .object entries => .object (entriesOf entries)
  | .made d => d.datum

def dataOf : List Argument → List Datum
  | [] => []
  | a :: rest => datum a :: dataOf rest

def entriesOf : Entries Argument → Entries Datum
  | [] => []
  | (key, a) :: rest => (key, datum a) :: entriesOf rest
end

/-- The name of an argument's kind in messages. -/
def kindName (a : Argument) : String := a.datum.kindName

def toNumber? : Argument → Option Number
  | .bool b => some (.flag b)
  | .int n => some (.whole n)
  | .float x => some (.real x)
  | _ => none

/-- An argument as a message shows it. -/
def display (a : Argument) : String := a.datum.display

/-- An argument as a message shows it, its texts quoted. -/
def quoted (a : Argument) : String := a.datum.quoted

/-- Whether an argument counts as true; every definition does. -/
def truthy (a : Argument) : Bool := a.datum.truthy

/-- Equality of arguments. -/
def same (a b : Argument) : Bool := a.datum.same b.datum

/-- The document of an argument. Plain data has none. -/
def render (a : Argument) : Except Fault Value := a.datum.render

/-- An argument that holds plain data only, as a value. -/
def value (a : Argument) : Except Fault Value := a.datum.value

/-- An argument, unless it is null. -/
def ifGiven : Argument → Option Argument
  | .null => none
  | a => some a

/-- The things that an argument holds one after the other: items, keys or characters. -/
def items : Argument → Except Fault (List Argument)
  | .list items => .ok items
  | .object entries => .ok (entries.map fun entry => .str entry.1)
  | .str s => .ok (s.toList.map fun c => .str (String.singleton c))
  | a => .error (.notIterable a.kindName)

/-- An argument that must not be null, taken unchecked. -/
def required (what : String) : Argument → Except Fault Datum
  | .null => .error (.absent what)
  | a => .ok a.datum

/-- Two arguments held by one. -/
def pair (a : Argument) : Except Fault (Argument × Argument) :=
  match a.items with
  | .error _ => .error (.notUnpackable a.kindName)
  | .ok [first, second] => .ok (first, second)
  | .ok items =>
    if items.length < 2 then .error (.tooFewToUnpack 2 items.length)
    else .error (.tooManyToUnpack 2)

end Argument

/-- Whether a number stands to another as a comparison says. What is undefined never does. -/
def Comparison.holds : Comparison → Number → Number → Bool
  | .less, a, b => a.lt b
  | .lessOrEqual, a, b => a.le b
  | .greater, a, b => b.lt a

namespace Setting

/-- The comparison with zero that a number must fail; the count of edits is compared otherwise. -/
def refused : Setting → Comparison
  | .prefixLength | .slop | .minimumShouldMatch => .less
  | .radius | .maxEdits | .maxExpansions | .maxCharacters | .maxPassages => .lessOrEqual

/-- Whether a number is refused for the setting. What is undefined compares with nothing, so only
the count of edits refuses it. -/
def refuses (s : Setting) (n : Number) : Bool :=
  match s with
  | .maxEdits => !(n.same (.whole 1) || n.same (.whole 2))
  | s => s.refused.holds n (.whole 0)

/-- The number an argument gives for the setting. -/
def accept (s : Setting) (a : Argument) : Except Fault Number :=
  match a.toNumber? with
  | some n => if s.refuses n then .error (.outOfBounds s a.display) else .ok n
  | none =>
    match s with
    | .maxEdits => .error (.outOfBounds s a.display)
    | s => .error (.incomparable s.refused a.kindName)

end Setting
end DocSearch
