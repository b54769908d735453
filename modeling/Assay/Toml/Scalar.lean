import Assay.Datum

/-!
# Scalars of TOML

Strings in four forms, whole numbers in four bases, floating-point numbers, truth values, and dates
and times. Each reader takes the text to a value and the text behind it; none is an answer where the
text is malformed.
-/

namespace Assay.Toml

/-- Whether a character is a blank or a tab. -/
def isBlank (c : Char) : Bool :=
  c == ' ' || c == '\t'

/-- Whether a character may stand in comments and strings: a tab or no control character. -/
def isText (c : Char) : Bool :=
  c == '\t' || (' ' ≤ c && c ≠ '\x7f')

/-- The text behind blanks. -/
def skipBlanks (s : List Char) : List Char :=
  s.dropWhile isBlank

/-- The text behind a line break in front. -/
def lineBreak? : List Char → Option (List Char)
  | '\n' :: s => some s
  | '\r' :: '\n' :: s => some s
  | _ => none

/-! ## Strings -/

/-- What a one-letter escape stands for. -/
def escape? (c : Char) : Option Char :=
  match c with
  | 'b' => some '\x08'
  | 't' => some '\t'
  | 'n' => some '\n'
  | 'f' => some '\x0c'
  | 'r' => some '\r'
  | '"' => some '"'
  | '\\' => some '\\'
  | _ => none

/-- The character that so many hexadecimal digits in front number, and the text behind them. -/
def numbered? (width : Nat) (s : List Char) : Option (Char × List Char) := do
  let ds := s.take width
  if ds.length < width then none
  else
    let n ← Yaml.inBase? 16 ds
    if (0xD800 ≤ n && n ≤ 0xDFFF) || n > 0x10FFFF then none else some (Char.ofNat n, s.drop width)

/-- The character that an escape stands for, from behind the backslash on. -/
def escaped? : List Char → Option (Char × List Char)
  | 'u' :: s => numbered? 4 s
  | 'U' :: s => numbered? 8 s
  | c :: s => (escape? c).map fun d => (d, s)
  | [] => none

/-- The text behind blanks and line breaks. -/
def skipSpace : (fuel : Nat) → List Char → List Char
  | 0, s => s
  | fuel + 1, s =>
    let s := skipBlanks s
    match lineBreak? s with
    | some s => skipSpace fuel s
    | none => s

/-- Reads a string on one line up to its closing quote. -/
def line (quote : Char) : (fuel : Nat) → (text : List Char) → List Char →
    Option (String × List Char)
  | 0, _, _ => none
  | _ + 1, _, [] => none
  | fuel + 1, text, c :: s =>
    if c = quote then some (String.ofList text.reverse, s)
    else if c = '\\' && quote = '"' then
      match escaped? s with
      | some (d, s) => line quote fuel (d :: text) s
      | none => none
    else if isText c then line quote fuel (c :: text) s
    else none

/-- Reads a string over several lines up to its three closing quotes; of up to five quotes in a row
the last three close. A backslash in front of a line break removes it with the space behind it. -/
def block (quote : Char) : (fuel : Nat) → (text : List Char) → List Char →
    Option (String × List Char)
  | 0, _, _ => none
  | _ + 1, _, [] => none
  | fuel + 1, text, c :: s =>
    if c = quote then
      let run := 1 + (s.takeWhile (· = quote)).length
      if run < 3 then block quote fuel (c :: text) s
      else if run > 5 then none
      else
        some (String.ofList (List.replicate (run - 3) quote ++ text).reverse, s.drop (run - 1))
    else if c = '\\' && quote = '"' then
      match lineBreak? (skipBlanks s) with
      | some s => block quote fuel text (skipSpace s.length s)
      | none =>
        match escaped? s with
        | some (d, s) => block quote fuel (d :: text) s
        | none => none
    else match lineBreak? (c :: s) with
      | some s => block quote fuel ('\n' :: text) s
      | none => if isText c then block quote fuel (c :: text) s else none

/-- Reads a string. -/
def string (s : List Char) : Option (String × List Char) :=
  match s with
  | a :: b :: c :: rest =>
    if (a = '"' || a = '\'') && b = a && c = a then
      block a (rest.length + 1) [] ((lineBreak? rest).getD rest)
    else if a = '"' || a = '\'' then line a (s.length + 1) [] (b :: c :: rest)
    else none
  | a :: rest => if a = '"' || a = '\'' then line a (s.length + 1) [] rest else none
  | [] => none

/-! ## Numbers -/

/-- Digits of a base in front, between which single underscores may stand. -/
def digits? (base : Nat) : (fuel : Nat) → List Char → Option (List Char × List Char)
  | 0, _ => none
  | _ + 1, [] => none
  | fuel + 1, c :: s =>
    if Yaml.digitValue c < base then
      match s with
      | '_' :: r => (digits? base fuel r).map fun (ds, r) => (c :: ds, r)
      | r =>
        match digits? base fuel r with
        | some (ds, r) => some (c :: ds, r)
        | none => if r.head?.any (Yaml.digitValue · < base) then none else some ([c], r)
    else none

/-- The sign in front, and the text behind it. -/
def signed : List Char → Bool × List Char
  | '+' :: s => (false, s)
  | '-' :: s => (true, s)
  | s => (false, s)

/-- Decimal digits in front that are zero or do not begin with one. -/
def wholeDigits? (s : List Char) : Option (List Char × List Char) :=
  match s with
  | '0' :: r => some (['0'], r)
  | _ => digits? 10 (s.length + 1) s

/-- A whole number, which has 64 bits with its sign. -/
def int? (s : List Char) : Option (Atom × List Char) := do
  let based (base : Nat) (r : List Char) : Option (Atom × List Char) := do
    let (ds, r) ← digits? base (r.length + 1) r
    let n := ds.foldl (fun n c => n * base + Yaml.digitValue c) 0
    if n < Nat.pow 2 63 then return (.int n, r) else none
  match s with
  | '0' :: 'x' :: r => based 16 r
  | '0' :: 'o' :: r => based 8 r
  | '0' :: 'b' :: r => based 2 r
  | _ =>
    let (minus, r) := signed s
    let (ds, r) ← wholeDigits? r
    let n : Int := Text.digitsValue ds
    let n := if minus then -n else n
    if -(Nat.pow 2 63) ≤ n && n < Nat.pow 2 63 then return (.int n, r) else none

/-- The exponent of a floating-point number. -/
def exponent? : List Char → Option (Int × List Char)
  | c :: s => do
    if c ≠ 'e' && c ≠ 'E' then none
    else
      let (minus, s) := signed s
      let (ds, s) ← digits? 10 (s.length + 1) s
      let e : Int := min (Text.digitsValue ds) 100000
      return (if minus then -e else e, s)
  | [] => none

/-- A floating-point number: one with a fraction or an exponent, infinity, or not a number. A
decimal that is too great is refused; one that is too small a negative number stands for minus
infinity. -/
def float? (s : List Char) : Option (Atom × List Char) := do
  let (minus, r) := signed s
  match r with
  | 'i' :: 'n' :: 'f' :: r => return (.float (if minus then .negInfinity else .infinity), r)
  | 'n' :: 'a' :: 'n' :: r => return (.float .nan, r)
  | _ =>
    let (whole, r) ← wholeDigits? r
    let (fraction, r) ← match r with
      | '.' :: r => (digits? 10 (r.length + 1) r).map fun (ds, r) => (some ds, r)
      | r => some (none, r)
    let (exponent, r) ← match exponent? r with
      | some (e, r) => some (some e, r)
      | none => if r.head? = some 'e' || r.head? = some 'E' then none else some (none, r)
    if fraction.isNone && exponent.isNone then none
    else
      let ds := fraction.getD []
      let x := Number.Double.ofDecimal minus (Text.digitsValue (whole ++ ds))
        (exponent.getD 0 - ds.length)
      if x = .infinity then none else return (.float x, r)

/-! ## Dates and times -/

/-- The number that so many decimal digits in front write, if it lies between two bounds. -/
def field? (width low high : Nat) (s : List Char) : Option (Nat × List Char) :=
  let ds := s.take width
  if ds.length = width && ds.all Text.isAsciiDigit then
    let n := Text.digitsValue ds
    if low ≤ n && n ≤ high then some (n, s.drop width) else none
  else none

/-- The text behind a character that must stand in front. -/
def mark? (c : Char) : List Char → Option (List Char)
  | d :: s => if c = d then some s else none
  | [] => none

/-- The number of days of a month. -/
def daysIn (year month : Nat) : Nat :=
  if month = 2 then
    if (year % 4 = 0 && year % 100 ≠ 0) || year % 400 = 0 then 29 else 28
  else if [4, 6, 9, 11].contains month then 30
  else 31

/-- The text behind a date. -/
def date? (s : List Char) : Option (List Char) := do
  let (year, s) ← field? 4 0 9999 s
  let (month, s) ← field? 2 1 12 (← mark? '-' s)
  let (_, s) ← field? 2 1 (daysIn year month) (← mark? '-' s)
  return s

/-- The text behind a time of day. -/
def time? (s : List Char) : Option (List Char) := do
  let (_, s) ← field? 2 0 23 s
  let (_, s) ← field? 2 0 59 (← mark? ':' s)
  let (_, s) ← field? 2 0 60 (← mark? ':' s)
  match s with
  | '.' :: d :: r => if Text.isAsciiDigit d then return r.dropWhile Text.isAsciiDigit else none
  | '.' :: [] => none
  | s => return s

/-- The text behind the distance from universal time. -/
def offset? (s : List Char) : Option (List Char) :=
  match s with
  | 'Z' :: r | 'z' :: r => some r
  | c :: r => do
    if c ≠ '+' && c ≠ '-' then none
    else
      let (_, r) ← field? 2 0 23 r
      let (_, r) ← field? 2 0 59 (← mark? ':' r)
      return r
  | [] => none

/-- The text behind a date, a time, or both. -/
def moment? (s : List Char) : Option (List Char) :=
  match date? s with
  | none => time? s
  | some r =>
    match r with
    | c :: t =>
      if c = 'T' || c = 't' || c = ' ' then
        match time? t with
        | some t => some ((offset? t).getD t)
        | none => if c = ' ' then some r else none
      else some r
    | [] => some r

/-- A date or time as data: a table with a single key of its own. -/
def moment (s : List Char) : Option (Datum × List Char) :=
  (moment? s).map fun r =>
    let text := String.ofList (s.take (s.length - r.length))
    (.map [(.scalar (.exact (.str "$__toml_private_datetime")), .scalar (.exact (.str text)))] none,
      r)

end Assay.Toml
