import DocSearch.Numeric.Double

/-! # Numbers

A number of a document is a truth value, an integer of any size or a binary64 number. They are
compared by value across the three kinds: a truth value counts as zero or one, and an integer is
never rounded before it is compared. -/

namespace DocSearch

/-- A place on the rational line, at one of its two ends, or nowhere. -/
inductive Magnitude where
  | undefined
  | bottom
  | rational (q : Rat)
  | top
  deriving DecidableEq

namespace Magnitude

/-- Equal places; what is undefined equals nothing. -/
def same : Magnitude → Magnitude → Bool
  | .bottom, .bottom => true
  | .rational p, .rational q => decide (p = q)
  | .top, .top => true
  | _, _ => false

/-- Strict order of places; what is undefined has no place in it. -/
def below : Magnitude → Magnitude → Bool
  | .bottom, .rational _ => true
  | .bottom, .top => true
  | .rational p, .rational q => decide (p < q)
  | .rational _, .top => true
  | _, _ => false

end Magnitude

def Double.magnitude : Double → Magnitude
  | .finite negative mantissa exponent => .rational (Double.exact negative mantissa exponent)
  | .infinite true => .bottom
  | .infinite false => .top
  | .nan => .undefined

/-- A number of a document. -/
inductive Number where
  | flag (b : Bool)
  | whole (n : Int)
  | real (x : Double)
  deriving DecidableEq, Inhabited

namespace Number

def magnitude : Number → Magnitude
  | .flag b => .rational (if b then 1 else 0)
  | .whole n => .rational (n : Rat)
  | .real x => x.magnitude

/-- Equality by value: `true`, `1` and `1.0` are the same number. -/
def same (a b : Number) : Bool := a.magnitude.same b.magnitude

/-- Order by value. -/
def lt (a b : Number) : Bool := a.magnitude.below b.magnitude

/-- Order by value; false if either number is undefined. -/
def le (a b : Number) : Bool := a.lt b || a.same b

/-- An integer reading of a truth value or an integer. -/
def toInt? : Number → Option Int
  | .flag b => some (if b then 1 else 0)
  | .whole n => some n
  | .real _ => none

def toDouble : Number → Double
  | .flag b => Double.ofInt (if b then 1 else 0)
  | .whole n => Double.ofInt n
  | .real x => x

/-- Whether the number is a binary64 number or can be rounded to a finite one. -/
def fitsDouble : Number → Bool
  | .real _ => true
  | a => a.toDouble.isFinite

/-- The sum: exact between integers, rounded once as soon as a binary64 number takes part. -/
def add (a b : Number) : Number :=
  match a.toInt?, b.toInt? with
  | some m, some n => .whole (m + n)
  | _, _ => .real (a.toDouble.add b.toDouble)

end Number
end DocSearch
