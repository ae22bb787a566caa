/-! # Binary64 numbers

A binary64 number is held by its exact meaning, a signed multiple of a power of two, so that order
and sum are questions about rationals. Every finite number that is built here comes from
`Double.ofRatio`, which rounds an exact quotient to the nearest representable one, ties to even. -/

namespace DocSearch

/-- `base ^ k`, or one if `k` is negative. For every `k` then, `base ^ k` is the quotient of
`power base k` by `power base (-k)`. -/
def power (base : Nat) (k : Int) : Nat := Nat.pow base k.toNat

/-- A binary64 number: `± mantissa * 2 ^ exponent`, an infinity, or the undefined number. -/
inductive Double where
  | finite (negative : Bool) (mantissa : Nat) (exponent : Int)
  | infinite (negative : Bool)
  | nan
  deriving DecidableEq, Inhabited

namespace Double

/-- Significant binary digits of a normal number. -/
def precision : Int := 53

/-- The exponent of the smallest positive number. -/
def minExponent : Int := -1074

/-- The exponent of the greatest finite number. -/
def maxExponent : Int := 971

/-- Whether `2 ^ k ≤ num / den`. -/
def reachesBit (num den : Nat) (k : Int) : Bool :=
  decide (den * power 2 k ≤ num * power 2 (-k))

/-- The greatest `k` with `2 ^ k ≤ num / den`, for a positive quotient. -/
def leadingBit (num den : Nat) : Int :=
  let guess : Int := (num.log2 : Int) - (den.log2 : Int)
  if reachesBit num den guess then guess else guess - 1

/-- The integer nearest to `num / den`; a tie goes to the even neighbour. -/
def roundHalfEven (num den : Nat) : Nat :=
  let quotient := num / den
  let twice := 2 * (num % den)
  if twice < den then quotient
  else if den < twice then quotient + 1
  else if quotient % 2 = 0 then quotient
  else quotient + 1

/-- The multiple of `2 ^ exponent` nearest to `num / den`, counted in units of `2 ^ exponent`. -/
def inUnitsOf (num den : Nat) (exponent : Int) : Nat :=
  roundHalfEven (num * power 2 (-exponent)) (den * power 2 exponent)

/-- The number nearest to `± num / den`, an infinity if that lies beyond the finite range. -/
def ofRatio (negative : Bool) (num den : Nat) : Double :=
  if num = 0 then .finite negative 0 minExponent
  else
    let exponent := max (leadingBit num den - (precision - 1)) minExponent
    let mantissa := inUnitsOf num den exponent
    let carried := mantissa = power 2 precision
    let exponent' := if carried then exponent + 1 else exponent
    if maxExponent < exponent' then .infinite negative
    else .finite negative (if carried then power 2 (precision - 1) else mantissa) exponent'

/-- The number nearest to an integer. -/
def ofInt (n : Int) : Double := ofRatio (decide (n < 0)) n.natAbs 1

/-- The number nearest to `± digits * 10 ^ exponent`. A leading digit of weight `10 ^ 400` is beyond
every finite number, and one of weight `10 ^ -400` rounds to zero, so the power is never built. -/
def ofDecimal (negative : Bool) (digits : Nat) (exponent : Int) : Double :=
  let lead := exponent + ((Nat.toDigits 10 digits).length : Int)
  if digits = 0 ∨ lead < -400 then .finite negative 0 minExponent
  else if 400 < lead then .infinite negative
  else ofRatio negative (digits * power 10 exponent) (power 10 (-exponent))

/-- The exact value of `± mantissa * 2 ^ exponent`. -/
def exact (negative : Bool) (mantissa : Nat) (exponent : Int) : Rat :=
  let signed : Int := if negative then -(mantissa : Int) else mantissa
  mkRat (signed * (power 2 exponent : Nat)) (power 2 (-exponent))

/-- The exact value of a finite number. -/
def toRat? : Double → Option Rat
  | .finite negative mantissa exponent => some (exact negative mantissa exponent)
  | _ => none

def isFinite : Double → Bool
  | .finite .. => true
  | _ => false

/-- Whether the number is a zero of either sign. -/
def isZero : Double → Bool
  | .finite _ mantissa _ => mantissa == 0
  | _ => false

/-- The sum, rounded once. The sum of two zeros is negative only if both are; a sum that cancels is
a positive zero. -/
def add : Double → Double → Double
  | .nan, _ => .nan
  | _, .nan => .nan
  | .infinite a, .infinite b => if a = b then .infinite a else .nan
  | .infinite a, .finite .. => .infinite a
  | .finite .., .infinite b => .infinite b
  | .finite a m e, .finite b n f =>
    let sum := exact a m e + exact b n f
    if sum = 0 then .finite (a && b && m == 0 && n == 0) 0 minExponent
    else ofRatio (decide (sum < 0)) sum.num.natAbs sum.den

end Double
end DocSearch
