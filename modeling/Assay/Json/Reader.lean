import Assay.Json.Basic
import Assay.Text.Digit

/-!
# Reading JSON

A reader for the JSON grammar, strict about what it accepts: no comments, no trailing commas, no
leading zeros, no bare control characters in strings, and no half of a surrogate pair. It goes
through the text once. Nested values are read with a budget that the length of the text bounds,
since every value takes at least one character.
-/

namespace Assay.Json

/-- White space between tokens. -/
def isSpace (c : Char) : Bool :=
  c == ' ' || c == '\n' || c == '\t' || c == '\r'

/-- The text without the white space in front. -/
def skipSpace (s : List Char) : List Char :=
  s.dropWhile isSpace

/-- The value of a hexadecimal digit. -/
def hexDigit? (c : Char) : Option Nat :=
  if '0' ≤ c && c ≤ '9' then some (c.toNat - '0'.toNat)
  else if 'a' ≤ c && c ≤ 'f' then some (c.toNat - 'a'.toNat + 10)
  else if 'A' ≤ c && c ≤ 'F' then some (c.toNat - 'A'.toNat + 10)
  else none

/-- The number that four hexadecimal digits in front of a text write. -/
def readUnit : List Char → Option (Nat × List Char)
  | a :: b :: c :: d :: s => do
    let n := ((← hexDigit? a) * 16 + (← hexDigit? b)) * 16 + (← hexDigit? c)
    return (n * 16 + (← hexDigit? d), s)
  | _ => none

/-- What a one-letter escape stands for. -/
def shortEscape? (c : Char) : Option Char :=
  match c with
  | '"' => some '"'
  | '\\' => some '\\'
  | '/' => some '/'
  | 'b' => some '\x08'
  | 'f' => some '\x0c'
  | 'n' => some '\n'
  | 'r' => some '\r'
  | 't' => some '\t'
  | _ => none

/-- The character that an escape behind `\u` stands for: one unit, or two that make a pair. -/
def readCodePoint (s : List Char) : Option (Char × List Char) := do
  let (hi, s) ← readUnit s
  if 0xDC00 ≤ hi && hi ≤ 0xDFFF then none
  else if 0xD800 ≤ hi && hi ≤ 0xDBFF then
    match s with
    | '\\' :: 'u' :: s => do
      let (lo, s) ← readUnit s
      if 0xDC00 ≤ lo && lo ≤ 0xDFFF then
        some (Char.ofNat (0x10000 + (hi - 0xD800) * 0x400 + (lo - 0xDC00)), s)
      else none
    | _ => none
  else some (Char.ofNat hi, s)

/-- Reads the rest of a string up to its closing quote; `done` is what was read, in reverse. -/
def readString (fuel : Nat) (done : List Char) (s : List Char) : Option (String × List Char) :=
  match fuel, s with
  | _ + 1, '"' :: s => some (String.ofList done.reverse, s)
  | fuel + 1, '\\' :: 'u' :: s => do
    let (c, s) ← readCodePoint s
    readString fuel (c :: done) s
  | fuel + 1, '\\' :: c :: s => do readString fuel ((← shortEscape? c) :: done) s
  | fuel + 1, c :: s => if c < ' ' then none else readString fuel (c :: done) s
  | _, _ => none

/-- Reads a run of at least one digit. -/
def readDigits (s : List Char) : Option (List Char × List Char) :=
  match s.takeWhile Text.isAsciiDigit with
  | [] => none
  | ds => some (ds, s.dropWhile Text.isAsciiDigit)

/-- Reads the digits in front of the point, without a leading zero. -/
def readWhole (s : List Char) : Option (List Char × List Char) := do
  let (ds, rest) ← readDigits s
  if ds.length > 1 && ds.head? == some '0' then none else some (ds, rest)

/-- Reads a point and the digits behind it, if there is a point. -/
def readFraction : List Char → Option (List Char × List Char)
  | '.' :: s => readDigits s
  | s => some ([], s)

/-- Reads a signed exponent, if there is one. -/
def readExponent : List Char → Option (Option Int × List Char)
  | c :: s =>
    if c = 'e' || c = 'E' then
      match s with
      | '-' :: s => (readDigits s).map fun (ds, r) => (some (-(Text.digitsValue ds : Int)), r)
      | '+' :: s => (readDigits s).map fun (ds, r) => (some (Text.digitsValue ds : Int), r)
      | s => (readDigits s).map fun (ds, r) => (some (Text.digitsValue ds : Int), r)
    else some (none, c :: s)
  | [] => some (none, [])

/-- Puts digits behind a number as long as it takes at most 64 bits; also how many digits are left.
-/
def appendDigits (n : Nat) : List Char → Nat × Nat
  | [] => (n, 0)
  | d :: ds =>
    let m := n * 10 + Text.digitsValue [d]
    if m ≤ Text.maxWord then appendDigits m ds else (n, ds.length + 1)

/-- A number from its digits. One without point and exponent is whole if it fits into 64 bits. Of
another only the digits that fit count. -/
def ofParts (negative : Bool) (whole fraction : List Char) (exponent : Option Int) : Option Json :=
  let (n, behind) := appendDigits 0 whole
  if fraction.isEmpty && exponent.isNone && behind = 0 && !(negative && n = 0) &&
      (!negative || n ≤ Nat.pow 2 63) then
    some (.int (if negative then -n else n))
  else
    let (n, unused) := appendDigits n fraction
    let shift : Int := (behind : Int) - (fraction.length - unused : Nat)
    let bound : Int := Nat.pow 2 31
    let e := max (-bound) (min bound (exponent.getD 0))
    (Number.Double.ofProduct? negative n (shift + e)).map .float

/-- Reads a number. -/
def readNumber (s : List Char) : Option (Json × List Char) := do
  let (negative, s) := match s with
    | '-' :: s => (true, s)
    | s => (false, s)
  let (whole, s) ← readWhole s
  let (fraction, s) ← readFraction s
  let (exponent, s) ← readExponent s
  return (← ofParts negative whole fraction exponent, s)

mutual

/-- Reads a value and the white space in front of it. -/
def readValue : (fuel : Nat) → List Char → Option (Json × List Char)
  | 0, _ => none
  | fuel + 1, s =>
    match skipSpace s with
    | 'n' :: 'u' :: 'l' :: 'l' :: s => some (.null, s)
    | 't' :: 'r' :: 'u' :: 'e' :: s => some (.bool true, s)
    | 'f' :: 'a' :: 'l' :: 's' :: 'e' :: s => some (.bool false, s)
    | '"' :: s => (readString (s.length + 1) [] s).map fun (t, rest) => (.str t, rest)
    | '[' :: s =>
      match skipSpace s with
      | ']' :: s => some (.arr [], s)
      | s => (readItems fuel s).map fun (items, rest) => (.arr items, rest)
    | '\x7b' :: s =>
      match skipSpace s with
      | '\x7d' :: s => some (.obj [], s)
      | s => (readMembers fuel s).map fun (members, rest) => (sorted members, rest)
    | s => readNumber s

/-- Reads the items of an array up to its closing bracket. -/
def readItems : (fuel : Nat) → List Char → Option (List Json × List Char)
  | 0, _ => none
  | fuel + 1, s => do
    let (v, s) ← readValue fuel s
    match skipSpace s with
    | ']' :: s => some ([v], s)
    | ',' :: s => (readItems fuel s).map fun (items, rest) => (v :: items, rest)
    | _ => none

/-- Reads the members of an object up to its closing brace. -/
def readMembers : (fuel : Nat) → List Char → Option (List (String × Json) × List Char)
  | 0, _ => none
  | fuel + 1, s =>
    match skipSpace s with
    | '"' :: s => do
      let (key, s) ← readString (s.length + 1) [] s
      match skipSpace s with
      | ':' :: s => do
        let (v, s) ← readValue fuel s
        match skipSpace s with
        | '\x7d' :: s => some ([(key, v)], s)
        | ',' :: s => (readMembers fuel s).map fun (ms, rest) => ((key, v) :: ms, rest)
        | _ => none
      | _ => none
    | _ => none

end

/-- The value that a text writes; none if it writes no value or more than one. -/
def parse? (s : String) : Option Json := do
  let (v, rest) ← readValue (s.length + 1) s.toList
  if (skipSpace rest).isEmpty then some v else none

end Assay.Json
