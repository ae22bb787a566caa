import DocSearch.Datum.Basic
import DocSearch.Numeric.Clock

/-! # Data that stand for spans of time

A span is given in seconds and is not looked at before it is used: a wait is compared with zero, and
the clock moves by a sleep. The readings of the clock are binary64 numbers. -/

namespace DocSearch

namespace Datum

/-- The reading after a span. -/
def addSpan (reading span : Datum) : Except Fault Datum :=
  match reading.toNumber?, span.toNumber? with
  | some now, some n => if n.fitsDouble then .ok (ofNumber (now.add n)) else .error .beyondDouble
  | _, _ => .error (.notAddable span.kindName)

/-- Order of readings; what is no number has no place in it. -/
def isBefore (a b : Datum) : Bool :=
  match a.toNumber?, b.toNumber? with
  | some m, some n => m.lt n
  | _, _ => false

/-- Whether a span is longer than none. Nothing but a number can be compared with zero. -/
def isPositiveSpan (span : Datum) : Except Fault Bool :=
  match span.toNumber? with
  | some n => .ok ((Number.whole 0).lt n)
  | none => .error (.incomparable .greater span.kindName)

/-- The bound on the sleeps of one length within a span. The first sleep by what is no number ends
the waiting. -/
def spanRounds (span step : Datum) : Nat :=
  match span.toNumber?, step.toNumber? with
  | some t, some p => t.rounds p
  | _, _ => 1

end Datum

/-- The clock whose spans are taken as they are given. -/
instance : Clock Datum where
  zero := .float (Double.ofInt 0)
  add := Datum.addSpan
  lt := Datum.isBefore
  isPositive := Datum.isPositiveSpan
  rounds := Datum.spanRounds

end DocSearch
