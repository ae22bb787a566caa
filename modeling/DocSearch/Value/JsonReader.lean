import DocSearch.Value.Basic
import DocSearch.Numeric.Reading

/-! # Reading JSON text

The reader takes any JSON text and nothing else: blanks between tokens, every escape, and numbers
with or without a fraction and an exponent, but without idle zeros in front. A number without either
is an integer of any size. Each step works on the remaining characters; the fuel of the mutual
functions bounds the depth and length of what they read, and the number of characters is always
enough. -/

namespace DocSearch.Json

def isSpace (c : Char) : Bool := c = ' ' || c = '\n' || c = '\r' || c = '\t'

def skip (cs : List Char) : List Char := cs.dropWhile isSpace

/-- The value of a hexadecimal digit. -/
def hexValue? (c : Char) : Option Nat :=
  if c.isDigit then some (c.toNat - '0'.toNat)
  else if 'a' ≤ c ∧ c ≤ 'f' then some (c.toNat - 'a'.toNat + 10)
  else if 'A' ≤ c ∧ c ≤ 'F' then some (c.toNat - 'A'.toNat + 10)
  else none

/-- Four hexadecimal digits. -/
def readHex4 : List Char → Option (Nat × List Char)
  | a :: b :: c :: d :: rest => do
    let a ← hexValue? a
    let b ← hexValue? b
    let c ← hexValue? c
    let d ← hexValue? d
    return (((a * 16 + b) * 16 + c) * 16 + d, rest)
  | _ => none

/-- The character that a single-letter escape stands for. -/
def simpleEscape? (c : Char) : Option Char :=
  match c with
  | '"' => some '"'
  | '\\' => some '\\'
  | '/' => some '/'
  | 'n' => some '\n'
  | 'r' => some '\r'
  | 't' => some '\t'
  | 'b' => some '\x08'
  | 'f' => some '\x0c'
  | _ => none

/-- One escape after its backslash. A high surrogate takes the low one that follows it. -/
def readEscape : List Char → Option (Char × List Char)
  | 'u' :: rest =>
    match readHex4 rest with
    | none => none
    | some (high, rest) =>
      if 0xd800 ≤ high ∧ high < 0xdc00 then
        match rest with
        | '\\' :: 'u' :: tail =>
          match readHex4 tail with
          | some (low, tail) =>
            if 0xdc00 ≤ low ∧ low < 0xe000 then
              some (Char.ofNat (0x10000 + (high - 0xd800) * 0x400 + (low - 0xdc00)), tail)
            else none
          | none => none
        | _ => none
      else if 0xdc00 ≤ high ∧ high < 0xe000 then none
      else some (Char.ofNat high, rest)
  | c :: rest => (simpleEscape? c).map fun c => (c, rest)
  | [] => none

/-- The characters of a text up to its closing quote, and what follows the quote. -/
def readChars : Nat → List Char → Option (List Char × List Char)
  | 0, _ => none
  | _ + 1, [] => none
  | fuel + 1, c :: rest =>
    if c = '"' then some ([], rest)
    else if c = '\\' then
      match readEscape rest with
      | some (c, rest) => (readChars fuel rest).map fun (cs, rest) => (c :: cs, rest)
      | none => none
    else if c.toNat < 0x20 then none
    else (readChars fuel rest).map fun (cs, rest) => (c :: cs, rest)

/-- The text after an opening quote. -/
def readString (cs : List Char) : Option (String × List Char) :=
  (readChars (cs.length + 1) cs).map fun (body, rest) => (String.ofList body, rest)

/-- An optional fraction or exponent part: its characters and what follows. -/
def takeFraction : List Char → List Char × List Char
  | '.' :: rest => ('.' :: rest.takeWhile Char.isDigit, rest.dropWhile Char.isDigit)
  | cs => ([], cs)

def takeExponent : List Char → List Char × List Char
  | c :: rest =>
    if c = 'e' ∨ c = 'E' then
      match rest with
      | '+' :: tail => ('e' :: tail.takeWhile Char.isDigit, tail.dropWhile Char.isDigit)
      | '-' :: tail => ('e' :: '-' :: tail.takeWhile Char.isDigit, tail.dropWhile Char.isDigit)
      | _ => ('e' :: rest.takeWhile Char.isDigit, rest.dropWhile Char.isDigit)
    else ([], c :: rest)
  | [] => ([], [])

/-- Whether digits are a whole part: at least one, and a zero in front only by itself. -/
def isWholePart (digits : List Char) : Bool :=
  !digits.isEmpty && (digits.head? != some '0' || digits.length == 1)

/-- An unsigned number. -/
def readUnsigned (negative : Bool) (cs : List Char) : Option (Value × List Char) :=
  let whole := cs.takeWhile Char.isDigit
  let (fraction, rest) := takeFraction (cs.dropWhile Char.isDigit)
  let (exponent, rest) := takeExponent rest
  if !isWholePart whole || fraction == ['.'] then none
  else if fraction.isEmpty && exponent.isEmpty then
    let n : Int := Numeral.ofDigits whole
    some (.int (if negative then -n else n), rest)
  else
    (Numeral.decimal? (whole ++ fraction ++ exponent)).map fun (digits, e) =>
      (.float (Double.ofDecimal negative digits e), rest)

def readNumber : List Char → Option (Value × List Char)
  | '-' :: rest => readUnsigned true rest
  | cs => readUnsigned false cs

mutual
/-- A value at the head of the text, after blanks. -/
def readValue : Nat → List Char → Option (Value × List Char)
  | 0, _ => none
  | fuel + 1, cs =>
    match skip cs with
    | 'n' :: 'u' :: 'l' :: 'l' :: rest => some (.null, rest)
    | 't' :: 'r' :: 'u' :: 'e' :: rest => some (.bool true, rest)
    | 'f' :: 'a' :: 'l' :: 's' :: 'e' :: rest => some (.bool false, rest)
    | '"' :: rest => (readString rest).map fun (s, rest) => (.str s, rest)
    | '[' :: rest =>
      match skip rest with
      | ']' :: rest => some (.list [], rest)
      | rest =>
        match readValue fuel rest with
        | some (item, rest) =>
          (readItems fuel rest).map fun (items, rest) => (.list (item :: items), rest)
        | none => none
    | '\x7b' :: rest =>
      match skip rest with
      | '\x7d' :: rest => some (.object [], rest)
      | rest =>
        match readEntry fuel rest with
        | some (entry, rest) =>
          (readEntries fuel rest).map fun (entries, rest) => (.object (entry :: entries), rest)
        | none => none
    | rest => readNumber rest

/-- The items after the first, up to the closing bracket. -/
def readItems : Nat → List Char → Option (List Value × List Char)
  | 0, _ => none
  | fuel + 1, cs =>
    match skip cs with
    | ']' :: rest => some ([], rest)
    | ',' :: rest =>
      match readValue fuel rest with
      | some (item, rest) =>
        (readItems fuel rest).map fun (items, rest) => (item :: items, rest)
      | none => none
    | _ => none

/-- A key, a colon and a value. -/
def readEntry : Nat → List Char → Option ((String × Value) × List Char)
  | 0, _ => none
  | fuel + 1, cs =>
    match skip cs with
    | '"' :: rest =>
      match readString rest with
      | some (key, rest) =>
        match skip rest with
        | ':' :: rest => (readValue fuel rest).map fun (value, rest) => ((key, value), rest)
        | _ => none
      | none => none
    | _ => none

/-- The entries after the first, up to the closing brace. -/
def readEntries : Nat → List Char → Option (List (String × Value) × List Char)
  | 0, _ => none
  | fuel + 1, cs =>
    match skip cs with
    | '\x7d' :: rest => some ([], rest)
    | ',' :: rest =>
      match readEntry fuel rest with
      | some (entry, rest) =>
        (readEntries fuel rest).map fun (entries, rest) => (entry :: entries, rest)
      | none => none
    | _ => none
end

/-- The value that a JSON text holds, with nothing but blanks around it. -/
def read? (s : String) : Option Value :=
  match readValue (2 * s.toList.length + 2) s.toList with
  | some (v, rest) => if (skip rest).isEmpty then some v else none
  | none => none

end DocSearch.Json
