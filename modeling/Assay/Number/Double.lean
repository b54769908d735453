/-!
# Binary floating-point numbers

A number of 64 bits in binary floating point, kept as its bits. It is read from a decimal by
rounding to the nearest, or more cheaply by rounding the digits first and then once more for each
power of ten they are multiplied with or divided by. It is written with the fewest digits that read
back as the same number, in positional notation and with at least one digit behind the point.

The digits come from exact arithmetic. A finite number other than zero is `m * 2 ^ q`; the reals
that round to it form an interval around it, with its ends if `m` is even. For one digit, two
digits, and so on, the two neighbours of the number on that decimal grid are tried; the first one
inside the interval is the answer, and of two the nearer.
-/

namespace Assay.Number

/-- A floating-point number. -/
structure Double where
  bits : UInt64
deriving DecidableEq

/-- The whole number nearest to a quotient; of two the even one. -/
def nearest (numerator denominator : Nat) : Nat :=
  let down := numerator / denominator
  let rest := numerator % denominator
  if 2 * rest < denominator then down
  else if 2 * rest > denominator then down + 1
  else if down % 2 = 0 then down else down + 1

namespace Double

/-- The number that the machine computes with. -/
def ofFloat (x : Float) : Double := ⟨x.toBits⟩

/-- The number nearest to `mantissa * 10 ^ exponent`, negated if asked for. -/
def ofDecimal (negative : Bool) (mantissa : Nat) (exponent : Int) : Double :=
  let size := OfScientific.ofScientific mantissa (exponent < 0) exponent.natAbs
  ofFloat (if negative then -size else size)

/-- A power of ten, rounded; `n` is at most 308. -/
def powerOfTen (n : Nat) : Float :=
  OfScientific.ofScientific 1 false n

/-- A number divided by a power of ten in at most `steps` more steps than one. -/
def dividedBy (x : Float) (n : Nat) : (steps : Nat) → Float
  | 0 => x / powerOfTen (min n 308)
  | steps + 1 =>
    if n ≤ 308 then x / powerOfTen n else dividedBy (x / powerOfTen 308) (n - 308) steps

/-- The number `mantissa * 10 ^ exponent` by the product or quotient of rounded numbers, negated if
asked for; none if it is too great. -/
def ofProduct? (negative : Bool) (mantissa : Nat) (exponent : Int) : Option Double :=
  let x := Float.ofNat mantissa
  let size :=
    if mantissa = 0 then x
    else if exponent < 0 then dividedBy x exponent.natAbs 2
    else x * powerOfTen exponent.natAbs
  if size.isInf || (exponent > 308 && mantissa ≠ 0) then none
  else some (ofFloat (if negative then -size else size))

/-- Positive infinity. -/
def infinity : Double := ⟨0x7FF0000000000000⟩

/-- Negative infinity. -/
def negInfinity : Double := ⟨0xFFF0000000000000⟩

/-- The value that is no number. -/
def nan : Double := ⟨0x7FF8000000000000⟩

/-- The bits of the exponent. -/
def exponentBits (x : Double) : Nat :=
  (x.bits.toNat / Nat.pow 2 52) % 2048

/-- The bits of the fraction. -/
def fractionBits (x : Double) : Nat :=
  x.bits.toNat % Nat.pow 2 52

/-- Whether the sign bit is set. -/
def isNegative (x : Double) : Bool :=
  x.bits.toNat / Nat.pow 2 63 == 1

/-- Whether the value is a number other than the infinities. -/
def isFinite (x : Double) : Bool :=
  x.exponentBits != 2047

/-- Whether the value is no number. -/
def isNaN (x : Double) : Bool :=
  !x.isFinite && x.fractionBits != 0

/-- Whether the value is zero, of either sign. -/
def isZero (x : Double) : Bool :=
  x.exponentBits == 0 && x.fractionBits == 0

/-- Whether two values are one: zero is one value whatever its sign, and so is what is no number. -/
def isSame (x y : Double) : Bool :=
  x == y || (x.isZero && y.isZero) || (x.isNaN && y.isNaN)

/-- A positive rational with the interval of those that round to the same number, all over one
denominator. -/
structure Span where
  low : Nat
  value : Nat
  high : Nat
  den : Nat
  closed : Bool

/-- The interval of a finite number other than zero, its sign apart. Below a power of two the
numbers lie twice as dense as above it. -/
def span (x : Double) : Span :=
  let m := if x.exponentBits = 0 then x.fractionBits else x.fractionBits + Nat.pow 2 52
  let e : Int := (max x.exponentBits 1 : Nat) - 1075 - 2
  let narrow := x.fractionBits = 0 && x.exponentBits > 1
  let scale := Nat.pow 2 e.toNat
  { low := (4 * m - if narrow then 1 else 2) * scale
    value := 4 * m * scale
    high := (4 * m + 2) * scale
    den := Nat.pow 2 (-e).toNat
    closed := m % 2 = 0 }

/-- Whether `digits * 10 ^ place` lies in the interval. -/
def Span.holds (s : Span) (digits : Nat) (place : Int) : Bool :=
  let n := digits * Nat.pow 10 place.toNat * s.den
  let unit := Nat.pow 10 (-place).toNat
  if s.closed then s.low * unit ≤ n && n ≤ s.high * unit
  else s.low * unit < n && n < s.high * unit

/-- The neighbour of the value on the grid of step `10 ^ place` that lies in the interval, if one
does; of two the nearer, and of two equally near the even one. -/
def Span.neighbour? (s : Span) (place : Int) : Option Nat :=
  let num := s.value * Nat.pow 10 (-place).toNat
  let den := s.den * Nat.pow 10 place.toNat
  let nearer := nearest num den
  let other := if nearer = num / den then num / den + 1 else num / den
  if s.holds nearer place then some nearer
  else if s.holds other place then some other
  else none

/-- The size of a finite number in units of a decimal place behind the point, to the nearest unit. -/
def inPlaces (x : Double) (places : Nat) : Nat :=
  nearest (x.span.value * Nat.pow 10 places) x.span.den

/-- The place of the leading digit: the least `p` with the value below `10 ^ p`, sought downwards
from `p + n`. -/
def Span.leading (s : Span) : (n : Nat) → (p : Int) → Int
  | 0, p => p
  | n + 1, p =>
    let above := p + n
    if s.value * Nat.pow 10 (-above).toNat < s.den * Nat.pow 10 above.toNat then s.leading n p
    else above + 1

/-- The fewest digits, at most `n` more than `17 - n`, that read back, with their place. -/
def Span.shortest (s : Span) (top : Int) : (n : Nat) → Nat × Int
  | 0 => (s.value / s.den, 0)
  | n + 1 =>
    let place := top - (17 - n : Nat)
    match s.neighbour? place with
    | some d => (d, place)
    | none => s.shortest top n

/-- Digits in positional notation, with the point `places` digits from the right. -/
def positional (digits : List Char) (place : Int) : List Char :=
  if place ≥ 0 then digits ++ List.replicate place.toNat '0' ++ ['.', '0']
  else
    let behind := (-place).toNat
    let padded := List.replicate (behind + 1 - digits.length) '0' ++ digits
    let front := padded.take (padded.length - behind)
    let back := padded.drop (padded.length - behind)
    let trimmed := (back.reverse.dropWhile (· = '0')).reverse
    front ++ '.' :: (if trimmed.isEmpty then ['0'] else trimmed)

/-- The shortest digits of a finite number other than zero, with the place of the last. -/
def digits (x : Double) : List Char × Int :=
  let s := x.span
  let (n, place) := s.shortest (s.leading 640 (-330)) 17
  (Nat.toDigits 10 n, place)

/-- A value without digits: zero, the infinities and what is no number. -/
def special? (x : Double) : Option String :=
  let sign := if x.isNegative then "-" else ""
  if !x.isFinite then
    some (if x.fractionBits != 0 then "NaN" else sign ++ "inf")
  else if x.exponentBits = 0 && x.fractionBits = 0 then some (sign ++ "0.0")
  else none

/-- The number as text, in positional notation. -/
def render (x : Double) : String :=
  match x.special? with
  | some s => s
  | none =>
    let (digits, place) := x.digits
    (if x.isNegative then "-" else "") ++ String.ofList (positional digits place)

/-- Digits without the zeros at the end, and the place of the last one kept. -/
def stripZeros (digits : List Char) (place : Int) : List Char × Int :=
  let kept := (digits.reverse.dropWhile (· = '0')).reverse
  (kept, place + (digits.length - kept.length : Nat))

/-- The number as text, with a signed exponent where the point would stand more than sixteen digits
behind the first digit or more than five in front of it. -/
def renderScaled (x : Double) : String :=
  match x.special? with
  | some s => s
  | none =>
    let (digits, place) := x.digits
    let (digits, place) := stripZeros digits place
    let point := place + digits.length
    let sign := if x.isNegative then "-" else ""
    if -5 < point && point ≤ 16 then sign ++ String.ofList (positional digits place)
    else
      let behind := digits.drop 1
      let mantissa := digits.take 1 ++ (if behind.isEmpty then [] else '.' :: behind)
      sign ++ String.ofList mantissa ++ "e" ++
        (if point > 0 then "+" else "") ++ toString (point - 1)

end Double

end Assay.Number
