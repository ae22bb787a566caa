import DocSearch.Value.Basic
import DocSearch.Numeric.Decimal

/-! # Values as JSON text

The writer keeps the order of keys and leaves every character but quotes, backslashes and controls as
it is. A value takes one line. -/

namespace DocSearch.Json

/-- `n` in four hexadecimal digits. -/
def hex4 (n : Nat) : List Char :=
  [Nat.digitChar (n / 4096 % 16), Nat.digitChar (n / 256 % 16),
   Nat.digitChar (n / 16 % 16), Nat.digitChar (n % 16)]

/-- A character inside quotes. -/
def escape (c : Char) : List Char :=
  if c = '"' then ['\\', '"']
  else if c = '\\' then ['\\', '\\']
  else if c = '\n' then ['\\', 'n']
  else if c = '\r' then ['\\', 'r']
  else if c = '\t' then ['\\', 't']
  else if c = '\x08' then ['\\', 'b']
  else if c = '\x0c' then ['\\', 'f']
  else if c.toNat < 0x20 then '\\' :: 'u' :: hex4 c.toNat
  else [c]

def writeString (s : String) : List Char := '"' :: (s.toList.flatMap escape ++ ['"'])

def writeInt (n : Int) : List Char :=
  if n < 0 then '-' :: Nat.toDigits 10 n.natAbs else Nat.toDigits 10 n.natAbs

/-- A number is written as in messages, but an infinity and the undefined number have names of their
own. -/
def writeDouble : Double → List Char
  | .nan => "NaN".toList
  | .infinite negative => if negative then "-Infinity".toList else "Infinity".toList
  | x => x.text.toList

mutual
def write : Value → List Char
  | .null => ['n', 'u', 'l', 'l']
  | .bool true => ['t', 'r', 'u', 'e']
  | .bool false => ['f', 'a', 'l', 's', 'e']
  | .int n => writeInt n
  | .float x => writeDouble x
  | .str s => writeString s
  | .list [] => ['[', ']']
  | .list (item :: rest) => '[' :: (write item ++ writeItems rest)
  | .object [] => ['\x7b', '\x7d']
  | .object ((key, value) :: rest) =>
    '\x7b' :: (writeString key ++ ':' :: ' ' :: (write value ++ writeEntries rest))

/-- The items after the first, and the closing bracket. -/
def writeItems : List Value → List Char
  | [] => [']']
  | item :: rest => ',' :: ' ' :: (write item ++ writeItems rest)

/-- The entries after the first, and the closing brace. -/
def writeEntries : List (String × Value) → List Char
  | [] => ['\x7d']
  | (key, value) :: rest =>
    ',' :: ' ' :: (writeString key ++ ':' :: ' ' :: (write value ++ writeEntries rest))
end

/-- A value as one line of JSON. -/
def text (v : Value) : String := String.ofList (write v)

end DocSearch.Json
