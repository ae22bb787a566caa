import DocSearch.Numeric.Double
import DocSearch.Text.Blank
import DocSearch.Text.Digit

/-! # Reading numbers

Two readers share one grammar of numerals. The setting reader takes decimal digits of every script
and lets a single underscore stand between two digits. The record reader takes ASCII digits, is
freer with underscores, and lets an integer carry a fraction of zeros. -/

namespace DocSearch.Numeral

/-- An optional sign: whether it is a minus, and what follows it. -/
def splitSign : List Char → Bool × List Char
  | '+' :: rest => (false, rest)
  | '-' :: rest => (true, rest)
  | cs => (false, cs)

/-- The value of a run of ASCII digits. -/
def ofDigits (cs : List Char) : Nat := Nat.ofDigitChars 10 cs 0

/-- An unsigned whole numeral: one or more digits. -/
def whole? (cs : List Char) : Option Nat :=
  if cs.isEmpty || !cs.all Char.isDigit then none else some (ofDigits cs)

/-- A signed whole numeral. -/
def signedWhole? (cs : List Char) : Option Int :=
  let (negative, rest) := splitSign cs
  (whole? rest).map fun n => if negative then -(n : Int) else n

/-- The exponent part: nothing, or `e` with a signed whole numeral. -/
def exponent? : List Char → Option Int
  | [] => some 0
  | c :: rest => if c.toLower = 'e' then signedWhole? rest else none

/-- An unsigned decimal numeral: digits with at most one point among them and an exponent. The
answer is the digits as one whole number and the power of ten that scales it. -/
def decimal? (cs : List Char) : Option (Nat × Int) :=
  let whole := cs.takeWhile Char.isDigit
  let rest := cs.dropWhile Char.isDigit
  let (fraction, rest) := match rest with
    | '.' :: tail => (tail.takeWhile Char.isDigit, tail.dropWhile Char.isDigit)
    | _ => ([], rest)
  if whole.isEmpty && fraction.isEmpty then none
  else (exponent? rest).map fun e => (ofDigits (whole ++ fraction), e - fraction.length)

/-- A signed numeral, or a name of an infinity or of the undefined number in any case. -/
def double? (cs : List Char) : Option Double :=
  let (negative, rest) := splitSign cs
  let name := String.ofList (rest.map Char.toLower)
  if name = "inf" ∨ name = "infinity" then some (.infinite negative)
  else if name = "nan" then some .nan
  else (decimal? rest).map fun (digits, e) => Double.ofDecimal negative digits e

/-- The text without its underscores, each of which has to stand between two digits; `previous`
tells whether a digit came just before. -/
def dropSeparators (previous : Bool) : List Char → Option (List Char)
  | [] => some []
  | '_' :: c :: rest =>
    if previous && c.isDigit then (dropSeparators true rest).map (c :: ·) else none
  | c :: rest => if c = '_' then none else (dropSeparators c.isDigit rest).map (c :: ·)

/-- A setting's text without the white space around it, digits of every script turned to ASCII. -/
def settingChars (s : String) : List Char :=
  (Text.trim Text.isWhiteSpace s.toList).map Text.asciiDigit

/-- A setting's text as plain ASCII: separators between digits removed as well. -/
def settingText (s : String) : Option (List Char) := dropSeparators false (settingChars s)

/-- The most digits that an integer may have. -/
def digitLimit : Nat := 4300

/-- The digits that a numeral starts with, counted without separators; nothing if a separator among
them is misplaced. -/
def leadingDigits (previous : Bool) : List Char → Option Nat
  | [] => some 0
  | '_' :: c :: rest =>
    if previous && c.isDigit then (leadingDigits true rest).map (· + 1) else none
  | c :: rest =>
    if c.isDigit then (leadingDigits true rest).map (· + 1)
    else if c = '_' then none
    else some 0

/-- Why a text names no integer. -/
inductive Unreadable where
  | malformed
  | tooLong (digits : Nat)
  deriving DecidableEq

/-- The integer that a setting's text names. The length of its digits is looked at before what may
follow them. -/
def settingInteger (s : String) : Except Unreadable Int :=
  let digits := (leadingDigits false (splitSign (settingChars s)).2).getD 0
  if digitLimit < digits then .error (.tooLong digits)
  else match (settingText s).bind signedWhole? with
    | some n => .ok n
    | none => .error .malformed

def settingInt? (s : String) : Option Int := (settingInteger s).toOption

/-- The number that a setting's text names. -/
def settingDouble? (s : String) : Option Double := (settingText s).bind double?

/-- Whether two underscores stand side by side. -/
def hasDoubledUnderscore : List Char → Bool
  | '_' :: '_' :: _ => true
  | _ :: rest => hasDoubledUnderscore rest
  | [] => false

/-- The text without its underscores; none may come first, last or next to another. -/
def dropUnderscores (cs : List Char) : Option (List Char) :=
  if cs.head? = some '_' || cs.getLast? = some '_' || hasDoubledUnderscore cs then none
  else some (cs.filter (· ≠ '_'))

/-- A whole numeral without the fraction of zeros behind it, of which there has to be one. -/
def dropZeroFraction (cs : List Char) : List Char :=
  match cs.dropWhile (· ≠ '.') with
  | '.' :: '0' :: fraction => if fraction.all (· = '0') then cs.takeWhile (· ≠ '.') else cs
  | _ => cs

/-- What is left of a numeral whose first characters, the last of them `last`, were zeros and
underscores. -/
def afterZeros (last : Char) : List Char → Option (List Char)
  | [] => some [last]
  | c :: rest =>
    if c = '0' || c = '_' then afterZeros c rest
    else if c = '-' || c.isDigit then some (c :: rest)
    else if c = '.' then some (last :: c :: rest)
    else none

/-- A numeral without idle zeros in front. It has to start with a digit; among the zeros underscores
may stand at will, and a minus may follow them. -/
def dropLeadingZeros : List Char → Option (List Char)
  | [] => none
  | c :: rest =>
    if c = '0' then afterZeros c rest
    else if c.isDigit then some (c :: rest)
    else none

/-- The bare numeral of a record's text: a minus and digits, if the text names an integer. -/
def recordNumeral? (s : String) : Option (List Char) := do
  let numeral ← match Text.trim Text.isWhiteSpace s.toList with
    | '+' :: rest => dropLeadingZeros rest
    | '-' :: rest => (dropLeadingZeros rest).map ('-' :: ·)
    | cs => dropLeadingZeros cs
  dropUnderscores (dropZeroFraction numeral)

/-- The integer that a bare numeral names. Zeros in front are gone, so one that is left stands alone.
The length of the digits, with the minus, is looked at before what may follow them. -/
def bareInteger (cs : List Char) : Except Unreadable Int :=
  let (negative, rest) := splitSign cs
  let digits := rest.takeWhile Char.isDigit
  let length := digits.length + (if negative then 1 else 0)
  if rest.head? = some '0' then
    if rest = ['0'] then .ok 0 else .error .malformed
  else if digitLimit < length then .error (.tooLong length)
  else match whole? rest with
    | some n => .ok (if negative then -(n : Int) else n)
    | none => .error .malformed

/-- The integer that a record's text names. -/
def recordInteger (s : String) : Except Unreadable Int :=
  match recordNumeral? s with
  | some numeral => bareInteger numeral
  | none => .error .malformed

/-- The number that a record's text names. White space around it is allowed, or underscores in it, but
not both. -/
def recordDouble? (s : String) : Option Double :=
  match double? (Text.trim Text.isWhiteSpace s.toList) with
  | some x => some x
  | none => (dropUnderscores s.toList).bind double?

end DocSearch.Numeral
