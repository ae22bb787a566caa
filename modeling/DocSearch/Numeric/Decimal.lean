import DocSearch.Numeric.Number

/-! # Decimal texts of numbers

A finite binary64 number is written with the fewest decimal digits that read back to it, and of
those the nearest; or rounded to a given count of significant digits. `NumeralStyle` then says where
the point goes and when an exponent is written. -/

namespace DocSearch

/-- A positive decimal number `coefficient * 10 ^ scale`. -/
structure Decimal where
  coefficient : Nat
  scale : Int
  deriving DecidableEq

namespace Decimal

/-- The decimal digits of the coefficient. -/
def digits (d : Decimal) : List Char := Nat.toDigits 10 d.coefficient

/-- The exponent of the leading digit. -/
def leadingExponent (d : Decimal) : Int := d.scale + (d.digits.length : Int) - 1

/-- The greatest `k` with `10 ^ k ≤ num / den`, for a positive quotient. -/
def exponentOf (num den : Nat) : Int :=
  let lift : Int := (Nat.toDigits 10 den).length
  ((Nat.toDigits 10 (num * power 10 lift / den)).length : Int) - 1 - lift

/-- Whole numbers `p` and `q` such that `num / den = c * 10 ^ k` exactly if `num * q = c * p`. -/
def scales (den : Nat) (k : Int) : Nat × Nat :=
  (den * power 10 k, power 10 (-k))

/-- The numbers that round to one binary64 number: `low` to `high` over `den`, with `value` inside,
and the ends belong to it if `closed`. -/
structure Interval where
  low : Nat
  value : Nat
  high : Nat
  den : Nat
  closed : Bool

/-- The interval around `mantissa * 2 ^ exponent`: half a unit to each side, but only a quarter
downwards where the next number below is twice as close. -/
def Interval.around (mantissa : Nat) (exponent : Int) : Interval :=
  let atBoundary := mantissa = power 2 (Double.precision - 1) ∧ Double.minExponent < exponent
  let unit := exponent - 2
  let up := power 2 unit
  { low := (4 * mantissa - if atBoundary then 1 else 2) * up
    value := 4 * mantissa * up
    high := (4 * mantissa + 2) * up
    den := power 2 (-unit)
    closed := mantissa % 2 = 0 }

/-- Whether the grid point `c * 10 ^ k` lies in the interval. -/
def Interval.holds (i : Interval) (c : Nat) (k : Int) : Bool :=
  let (p, q) := scales i.den k
  if i.closed then decide (i.low * q ≤ c * p) && decide (c * p ≤ i.high * q)
  else decide (i.low * q < c * p) && decide (c * p < i.high * q)

/-- The point of the grid of multiples of `10 ^ k` nearest to the value of the interval, among the
value's two neighbours that lie in the interval. -/
def Interval.nearest? (i : Interval) (k : Int) : Option Decimal :=
  let (p, q) := scales i.den k
  let below := i.value * q / p
  let above := below + 1
  match i.holds below k, i.holds above k with
  | false, false => none
  | true, false => some ⟨below, k⟩
  | false, true => some ⟨above, k⟩
  | true, true =>
    let down := i.value * q - below * p
    let up := above * p - i.value * q
    if down < up then some ⟨below, k⟩
    else if up < down then some ⟨above, k⟩
    else some ⟨if below % 2 = 0 then below else above, k⟩

/-- `coefficient` without its trailing zeros, each taken into the scale. -/
def stripZeros : Nat → Decimal → Decimal
  | 0, d => d
  | fuel + 1, d =>
    if d.coefficient ≠ 0 ∧ d.coefficient % 10 = 0 then
      stripZeros fuel ⟨d.coefficient / 10, d.scale + 1⟩
    else d

/-- The shortest decimal that reads back to `mantissa * 2 ^ exponent`: the grids of one, two, …
seventeen digits are tried in turn. A hit that carries into the next power of ten ends in zeros. -/
def shortest (mantissa : Nat) (exponent : Int) : Decimal :=
  let i := Interval.around mantissa exponent
  let lead := exponentOf i.value i.den
  stripZeros 17 (((List.range 17).findSome? fun (n : Nat) => i.nearest? (lead - n)).getD ⟨0, 0⟩)

/-- `mantissa * 2 ^ exponent` rounded to `count` significant digits, without trailing zeros. -/
def significant (count mantissa : Nat) (exponent : Int) : Decimal :=
  let i := Interval.around mantissa exponent
  let k := exponentOf i.value i.den - count + 1
  let (p, q) := scales i.den k
  stripZeros (count + 1) ⟨Double.roundHalfEven (i.value * q) p, k⟩

end Decimal

/-- How a decimal is laid out: positional from `least` up to but not including `limit`, with a
mantissa and an exponent of at least `exponentWidth` digits elsewhere. -/
structure NumeralStyle where
  least : Int
  limit : Int
  keepPoint : Bool
  exponentWidth : Nat

namespace NumeralStyle

/-- Documents write numbers positionally from `0.0001` to below `10 ^ 16`, and a number without a
fraction keeps `.0`. -/
def document : NumeralStyle := ⟨-4, 16, true, 2⟩

/-- Messages write a duration with at most six digits and no idle zeros. -/
def brief : NumeralStyle := ⟨-4, 6, false, 2⟩

def padLeft (width : Nat) (cs : List Char) : List Char :=
  List.replicate (width - cs.length) '0' ++ cs

/-- The exponent mark, a sign and the digits of the exponent. -/
def exponentText (style : NumeralStyle) (x : Int) : List Char :=
  'e' :: (if x < 0 then '-' else '+') :: padLeft style.exponentWidth (Nat.toDigits 10 x.natAbs)

/-- The digits `ds` with the point after the digit of weight one; `x` is the weight of the first. -/
def positional (style : NumeralStyle) (ds : List Char) (x : Int) : List Char :=
  if x < 0 then '0' :: '.' :: (List.replicate (x.natAbs - 1) '0' ++ ds)
  else
    let whole := ds.take (x.toNat + 1)
    let fraction := ds.drop (x.toNat + 1)
    let padded := whole ++ List.replicate (x.toNat + 1 - whole.length) '0'
    if fraction.isEmpty then
      if style.keepPoint then padded ++ ['.', '0'] else padded
    else padded ++ '.' :: fraction

/-- The digits with a point after the first, and an exponent. -/
def scientific (style : NumeralStyle) (ds : List Char) (x : Int) : List Char :=
  let lead := ds.take 1
  let fraction := ds.drop 1
  (if fraction.isEmpty then lead else lead ++ '.' :: fraction) ++ style.exponentText x

def layOut (style : NumeralStyle) (d : Decimal) : List Char :=
  let x := d.leadingExponent
  if style.least ≤ x ∧ x < style.limit then style.positional d.digits x
  else style.scientific d.digits x

/-- The text of a binary64 number whose finite values are written by `decimal`. -/
def write (style : NumeralStyle) (decimal : Nat → Int → Decimal) : Double → String
  | .nan => "nan"
  | .infinite negative => if negative then "-inf" else "inf"
  | .finite negative mantissa exponent =>
    let body :=
      if mantissa = 0 then if style.keepPoint then ['0', '.', '0'] else ['0']
      else style.layOut (decimal mantissa exponent)
    String.ofList (if negative then '-' :: body else body)

end NumeralStyle

/-- The text of a binary64 number in documents and messages. -/
def Double.text (x : Double) : String := NumeralStyle.document.write Decimal.shortest x

/-- The text of a duration in messages: at most six significant digits. -/
def Double.briefText (x : Double) : String := NumeralStyle.brief.write (Decimal.significant 6) x

namespace Number

def text : Number → String
  | .flag b => if b then "True" else "False"
  | .whole n => toString n
  | .real x => x.text

def briefText (a : Number) : String := a.toDouble.briefText

end Number
end DocSearch
