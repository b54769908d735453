import Assay.Number.Double

/-!
# Durations in words

A duration is a number of nanoseconds. In words it is written in the greatest unit of which it is at
least one; the last place is rounded and a half goes up. In seconds it is a binary number, and what
is written is that number: 4500000 nanoseconds are a little less than 0.0045 seconds and so 0.004.
-/

namespace Assay.Report

/-- A number of units of the last place, with so many places behind the point. -/
def pointed (places n : Nat) : String :=
  let scale := Nat.pow 10 places
  let fraction := toString (n % scale)
  toString (n / scale) ++ "." ++
    String.ofList (List.replicate (places - fraction.length) '0') ++ fraction

/-- A quotient with so many places behind the point. -/
def fixed (places numerator denominator : Nat) : String :=
  pointed places ((2 * numerator * Nat.pow 10 places + denominator) / (2 * denominator))

/-- A duration with two places and its unit. -/
def durationText (ns : Nat) : String :=
  if ns ≥ 1000000000 then fixed 2 ns 1000000000 ++ "s"
  else if ns ≥ 1000000 then fixed 2 ns 1000000 ++ "ms"
  else if ns ≥ 1000 then fixed 2 ns 1000 ++ "µs"
  else fixed 2 ns 1 ++ "ns"

/-- The nanoseconds of a second. -/
def second : Nat := 1000000000

/-- A duration in seconds: the whole ones and the rest, each as a binary number. -/
def seconds (ns : Nat) : Number.Double :=
  .ofFloat (Float.ofNat (ns / second) + Float.ofNat (ns % second) / Float.ofNat second)

/-- A duration in seconds with three places. -/
def secondsText (ns : Nat) : String :=
  pointed 3 ((seconds ns).inPlaces 3)

end Assay.Report
