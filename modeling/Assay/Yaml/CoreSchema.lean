import Assay.Number.Double
import Assay.Text.Digit
import Assay.Text.Blank

/-!
# What an unquoted scalar stands for

An unquoted YAML scalar is null, a truth value, a whole number, a floating-point number or a string,
by its text alone. Whole numbers are decimal, or hexadecimal, octal or binary behind `0x`, `0o` or
`0b`; digits behind a leading zero are a string, and so is a number with underscores.
-/

namespace Assay.Yaml

/-- Whether a text stands for null. -/
def isNull (s : List Char) : Bool :=
  ["null", "Null", "NULL", "~"].contains (String.ofList s)

/-- The truth value that a text stands for. -/
def bool? (s : List Char) : Option Bool :=
  if ["true", "True", "TRUE"].contains (String.ofList s) then some true
  else if ["false", "False", "FALSE"].contains (String.ofList s) then some false
  else none

/-- The value of a digit, letters of both cases counting from ten. -/
def digitValue (c : Char) : Nat :=
  if '0' ≤ c && c ≤ '9' then c.toNat - '0'.toNat
  else if 'a' ≤ c && c ≤ 'z' then c.toNat - 'a'.toNat + 10
  else if 'A' ≤ c && c ≤ 'Z' then c.toNat - 'A'.toNat + 10
  else 36

/-- The number that digits of a base write. -/
def inBase? (base : Nat) (s : List Char) : Option Nat :=
  if s.isEmpty || !s.all (digitValue · < base) then none
  else some (s.foldl (fun n c => n * base + digitValue c) 0)

/-- The number behind a marker of a base. -/
def based? (s : List Char) : Option Nat :=
  match s with
  | '0' :: 'x' :: ds => inBase? 16 ds
  | '0' :: 'o' :: ds => inBase? 8 ds
  | '0' :: 'b' :: ds => inBase? 2 ds
  | _ => none

/-- The text without one sign in front. -/
def unsigned : List Char → List Char
  | '+' :: s => s
  | '-' :: s => s
  | s => s

/-- Digits behind a leading zero, with or without a sign. -/
def isZeroPadded (s : List Char) : Bool :=
  match unsigned s with
  | '0' :: d :: ds => (d :: ds).all Text.isAsciiDigit
  | _ => false

/-- The whole number that is written without a minus sign. -/
def natural? (s : List Char) : Option Nat :=
  let body := match s with
    | '+' :: r => r
    | s => s
  (based? body) <|> (if isZeroPadded body then none else inBase? 10 body)

/-- The whole number that is written with a minus sign, or with neither sign nor marker. -/
def negative? (s : List Char) : Option Int :=
  match s with
  | '-' :: body =>
    ((based? body) <|> (if isZeroPadded s then none else inBase? 10 body)).map fun n => -(n : Int)
  | _ => none

/-- The digits, point and exponent of a decimal, without its sign. -/
def decimal? (s : List Char) : Option (Nat × Int) := do
  let whole := s.takeWhile Text.isAsciiDigit
  let rest := s.dropWhile Text.isAsciiDigit
  let (fraction, rest) := match rest with
    | '.' :: r => (r.takeWhile Text.isAsciiDigit, r.dropWhile Text.isAsciiDigit)
    | r => ([], r)
  if whole.isEmpty && fraction.isEmpty then none
  else
    let mantissa := Text.digitsValue (whole ++ fraction)
    let scale (e : Int) : Int := max (-100000) (min 100000 e) - fraction.length
    match rest with
    | [] => some (mantissa, scale 0)
    | c :: r =>
      if c = 'e' || c = 'E' then
        let digits := unsigned r
        if digits.isEmpty || !digits.all Text.isAsciiDigit then none
        else
          let e : Int := Text.digitsValue digits
          some (mantissa, scale (if r.head? = some '-' then -e else e))
      else none

/-- The floating-point number that a text stands for; a number too great for one stands for none. -/
def float? (s : List Char) : Option Number.Double :=
  let t := String.ofList s
  if [".inf", ".Inf", ".INF", "+.inf", "+.Inf", "+.INF"].contains t then some .infinity
  else if ["-.inf", "-.Inf", "-.INF"].contains t then some .negInfinity
  else if [".nan", ".NaN", ".NAN"].contains t then some .nan
  else
    match decimal? (unsigned s) with
    | none => none
    | some (mantissa, exponent) =>
      let x := Number.Double.ofDecimal (s.head? = some '-') mantissa exponent
      if x.isFinite then some x else none

end Assay.Yaml
