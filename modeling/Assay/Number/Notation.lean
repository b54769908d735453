import Assay.Number.Double
import Assay.Text.Digit

/-!
# Numbers in positional and in scientific notation

A number written with so many digits behind the point, or with so many significant digits. The
digits are those of the exact value, rounded to the nearest and from the middle to the even one.
-/

namespace Assay.Number

/-- A quotient rounded to the nearest whole number, from the middle to the even one. -/
def roundedQuotient (num den : Nat) : Nat :=
  let q := num / den
  let rest := num % den
  if 2 * rest < den then q
  else if 2 * rest > den then q + 1
  else if q % 2 = 0 then q else q + 1

/-- A rational number that is not negative. -/
structure Magnitude where
  num : Nat
  den : Nat

namespace Magnitude

/-- The value of a finite number, its sign apart. -/
def ofDouble (x : Double) : Magnitude :=
  let m := if x.exponentBits = 0 then x.fractionBits else x.fractionBits + Nat.pow 2 52
  let e : Int := (max x.exponentBits 1 : Nat) - 1075
  ⟨m * Nat.pow 2 e.toNat, Nat.pow 2 (-e).toNat⟩

/-- The value times a power of ten, rounded. -/
def rounded (v : Magnitude) (place : Int) : Nat :=
  roundedQuotient (v.num * Nat.pow 10 place.toNat) (v.den * Nat.pow 10 (-place).toNat)

/-- Digits made as many as wanted by zeros in front. -/
def padded (n : Nat) (ds : List Char) : List Char :=
  List.replicate (n - ds.length) '0' ++ ds

/-- The number with so many digits behind the point, which is shown without any only if asked
for. -/
def fixed (v : Magnitude) (precision : Nat) (point : Bool) : List Char :=
  let ds := padded (precision + 1) (Nat.toDigits 10 (v.rounded precision))
  let front := ds.take (ds.length - precision)
  let back := ds.drop (ds.length - precision)
  front ++ if back.isEmpty && !point then [] else '.' :: back

/-- Whether the value is less than a power of ten. -/
def below (v : Magnitude) (place : Int) : Bool :=
  v.num * Nat.pow 10 (-place).toNat < v.den * Nat.pow 10 place.toNat

/-- The place of the leading digit, sought downwards from `place + steps`. -/
def leading (v : Magnitude) : (steps : Nat) → (place : Int) → Int
  | 0, place => place
  | steps + 1, place =>
    if v.below (place + steps + 1) then v.leading steps place else place + steps + 1

/-- So many significant digits and the place of the first one. -/
def significant (v : Magnitude) (count : Nat) : List Char × Int :=
  if v.num = 0 then (List.replicate count '0', 0)
  else
    let place := v.leading 700 (-350)
    let ds := Nat.toDigits 10 (v.rounded (count - 1 - place))
    if ds.length > count then (ds.take count, place + 1) else (ds, place)

/-- An exponent with its sign and two digits at least. -/
def exponent (place : Int) : List Char :=
  (if place < 0 then '-' else '+') :: padded 2 (Nat.toDigits 10 place.natAbs)

/-- The number with so many digits behind the first one, and its exponent. -/
def scientific (v : Magnitude) (precision : Nat) (point : Bool) : List Char :=
  let (ds, place) := v.significant (precision + 1)
  let back := ds.drop 1
  ds.take 1 ++ (if back.isEmpty && !point then [] else '.' :: back) ++ 'e' :: exponent place

/-- A number without the zeros at the end of what is behind its point. -/
def withoutZeros (ds : List Char) : List Char :=
  if ds.contains '.' then
    let kept := (ds.reverse.dropWhile (· = '0')).reverse
    if kept.getLast? = some '.' then kept.dropLast else kept
  else ds

/-- The number with so many significant digits, in the shorter notation; zeros at the end are kept
only if asked for. -/
def general (v : Magnitude) (precision : Nat) (zeros : Bool) : List Char :=
  let precision := max precision 1
  let (_, place) := v.significant precision
  if -4 ≤ place && place < precision then
    let ds := v.fixed (precision - 1 - place).toNat zeros
    if zeros then ds else withoutZeros ds
  else
    let ds := v.scientific (precision - 1) zeros
    if zeros then ds
    else withoutZeros (ds.takeWhile (· ≠ 'e')) ++ ds.dropWhile (· ≠ 'e')

end Magnitude

/-! ## Reading -/

/-- The digits of a number in front of a text, with the power of ten or two that they are to be
multiplied with. -/
structure Written where
  mantissa : Nat
  exponent : Int
  rest : List Char

/-- The exponent behind a letter, if one stands in front, and what is behind it. -/
def writtenExponent (letters : List Char) (s : List Char) : Int × List Char :=
  match s with
  | c :: rest =>
    if !letters.contains c then (0, s)
    else
      let (minus, digits) := match rest with
        | '-' :: ds => (true, ds)
        | '+' :: ds => (false, ds)
        | ds => (false, ds)
      let ds := digits.takeWhile Char.isDigit
      if ds.isEmpty then (0, s)
      else
        let n : Int := min (Text.digitsValue ds) 100000
        (if minus then -n else n, digits.drop ds.length)
  | [] => (0, s)

/-- The decimal number without a sign in front of a text. -/
def writtenDecimal? (s : List Char) : Option Written :=
  let front := s.takeWhile Char.isDigit
  let rest := s.drop front.length
  let (back, rest) := match rest with
    | '.' :: ds => (ds.takeWhile Char.isDigit, ds.dropWhile Char.isDigit)
    | ds => ([], ds)
  if front.isEmpty && back.isEmpty then none
  else
    let (e, rest) := writtenExponent ['e', 'E'] rest
    some ⟨Text.digitsValue (front ++ back), e - back.length, rest⟩

/-- The value of a hexadecimal digit. -/
def hexDigitValue? (c : Char) : Option Nat :=
  let n := c.toLower.toNat
  if 48 ≤ n && n ≤ 57 then some (n - 48)
  else if 97 ≤ n && n ≤ 102 then some (n - 87) else none

/-- The hexadecimal digits in front of a text. -/
def hexDigits (s : List Char) : List Char :=
  s.takeWhile fun c => (hexDigitValue? c).isSome

/-- The hexadecimal number in front of a text, of which the exponent is of base two. -/
def writtenHex? (s : List Char) : Option Written :=
  match s with
  | '0' :: x :: digits =>
    if x ≠ 'x' && x ≠ 'X' then none
    else
      let front := hexDigits digits
      let rest := digits.drop front.length
      let (back, rest) := match rest with
        | '.' :: ds => (hexDigits ds, ds.drop (hexDigits ds).length)
        | ds => ([], ds)
      if front.isEmpty && back.isEmpty then none
      else
        let n := (front ++ back).foldl (fun n c => 16 * n + (hexDigitValue? c).getD 0) 0
        let (e, rest) := writtenExponent ['p', 'P'] rest
        let e := e - 4 * (back.length : Int)
        if e ≥ 0 then some ⟨n * Nat.pow 2 (min e 2000).toNat, 0, rest⟩
        else
          let k := (min (-e) 2000).toNat
          some ⟨n * Nat.pow 5 k, -(k : Int), rest⟩
  | _ => none

/-- A word in front of a text, in small or capital letters, and what is behind it. -/
def afterWord? (word : String) (s : List Char) : Option (List Char) :=
  if (s.take word.length).map Char.toLower = word.toList then some (s.drop word.length) else none

/-- The number in front of a text behind blanks and a sign, and what is behind it. -/
def Double.read? (s : List Char) : Option (Double × List Char) :=
  let s := s.dropWhile fun c => c = ' ' || ('\t' ≤ c && c ≤ '\r')
  let (minus, s) := match s with
    | '-' :: r => (true, r)
    | '+' :: r => (false, r)
    | r => (false, r)
  match afterWord? "infinity" s <|> afterWord? "inf" s, afterWord? "nan" s with
  | some rest, _ => some (if minus then .negInfinity else .infinity, rest)
  | none, some rest => some (.nan, rest)
  | none, none =>
    (writtenHex? s <|> writtenDecimal? s).map fun w =>
      (if w.exponent > 400 && w.mantissa ≠ 0 then (if minus then .negInfinity else .infinity)
        else if w.exponent < -2000 then .ofDecimal minus 0 0
        else .ofDecimal minus w.mantissa w.exponent, w.rest)

end Assay.Number
