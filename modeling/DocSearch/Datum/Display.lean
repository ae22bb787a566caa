import DocSearch.Datum.Basic
import DocSearch.Text.Quoted

/-! # Data in messages

A message shows a text as it is; inside a list or an object, and where a message says so, texts are
quoted. A builder is shown by its counts, any other definition by its type. -/

namespace DocSearch

namespace Datum

mutual
/-- A datum with its texts quoted. -/
def quoted : Datum → String
  | .null => "None"
  | .bool b => if b then "True" else "False"
  | .int n => toString n
  | .float x => x.text
  | .str s => Text.quoted s
  | .list items => "[" ++ ", ".intercalate (quotedItems items) ++ "]"
  | .object entries => "\x7b" ++ ", ".intercalate (quotedEntries entries) ++ "\x7d"
  | .made typeName .. => typeName ++ "()"
  | .builder _ c => c.description

def quotedItems : List Datum → List String
  | [] => []
  | item :: rest => quoted item :: quotedItems rest

def quotedEntries : Entries Datum → List String
  | [] => []
  | (key, d) :: rest => (Text.quoted key ++ ": " ++ quoted d) :: quotedEntries rest
end

/-- A datum as a message shows it. -/
def display : Datum → String
  | .str s => s
  | d => quoted d

end Datum

namespace Value

/-- A value with its texts quoted. -/
def quoted (v : Value) : String := (Datum.ofValue v).quoted

/-- A value as a message shows it. -/
def display (v : Value) : String := (Datum.ofValue v).display

end Value
end DocSearch
