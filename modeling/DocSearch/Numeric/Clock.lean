import DocSearch.Fault
import DocSearch.Numeric.Number

/-! # Clocks

Readings of a clock and spans of time. A clock that only moves by sleeping passes any deadline after
boundedly many sleeps of one positive length; `Clock.rounds` is such a bound. -/

namespace DocSearch

/-- What waiting asks of the readings of a clock. -/
class Clock (τ : Type) where
  zero : τ
  /-- The reading after a span. A span may be too long for the clock, or none at all. -/
  add : τ → τ → Except Fault τ
  lt : τ → τ → Bool
  /-- Whether a span is longer than none, if it is one. -/
  isPositive : τ → Except Fault Bool
  /-- How many sleeps of length `step` it takes at most to pass a span. -/
  rounds (span step : τ) : Nat

/-- The exact clock. -/
instance : Clock Rat where
  zero := 0
  add a b := .ok (a + b)
  lt a b := decide (a < b)
  isPositive span := .ok (decide (0 < span))
  rounds span step := (span / step).ceil.toNat + 1

namespace Number

/-- The bound for a clock whose readings are rounded: twice the exact count, which also covers that a
sum may be rounded down. A span without end, or sleeps of no length, are given as many rounds as can
ever be lived through. -/
def rounds (span step : Number) : Nat :=
  match span.magnitude, step.magnitude with
  | .rational t, .rational p => if 0 < p then 2 * (t / p).ceil.toNat + 2 else power 2 62
  | _, _ => power 2 62

end Number

end DocSearch
