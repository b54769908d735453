import Assay.Number.Notation
import Assay.Shell.Print
import Assay.Utility.Basic
import Assay.Utility.Awk.Syntax
import Assay.Utility.Expression.Match
import Assay.Utility.Expression.Parser

/-!
# Values

A value is a number or a text. A text that was read and writes a number is both: it is compared as a
number with numbers, and as a text with texts. What has no value yet is an empty text and zero.
-/

namespace Assay.Awk

open Number Shell Expression

/-- A value. -/
inductive Cell where
  | empty
  | number (x : Float)
  | text (bs : List UInt8)
  /-- A text that was read and writes a number. -/
  | numeral (bs : List UInt8) (x : Float)
deriving Inhabited

/-- Octets as characters. -/
def charsOf (bs : List UInt8) : List Char :=
  bs.map fun b => Char.ofNat b.toNat

/-- The number that octets begin with, and how many octets are behind it. -/
def leadingNumber (bs : List UInt8) : Float × Nat :=
  match Double.read? (charsOf bs) with
  | some (x, rest) => (Float.ofBits x.bits, rest.length)
  | none => (0, bs.length)

/-- The value of what was read. -/
def Cell.ofInput (bs : List UInt8) : Cell :=
  let bare := (bs.reverse.dropWhile isGap).reverse.dropWhile isGap
  match bare with
  | [] => .text bs
  | b :: _ =>
    if (48 ≤ b && b ≤ 57) || b = 43 || b = 45 || b = 46 then
      let (x, left) := leadingNumber bare
      if left = 0 then .numeral bs x else .text bs
    else .text bs

/-- A value as a number. -/
def Cell.toNumber : Cell → Float
  | .empty => 0
  | .number x | .numeral _ x => x
  | .text bs => (leadingNumber bs).1

/-- Whether a value holds as a condition. -/
def Cell.holds : Cell → Bool
  | .empty => false
  | .number x | .numeral _ x => x != 0
  | .text bs => !bs.isEmpty

/-- A truth value as a number. -/
def Cell.ofBool (b : Bool) : Cell :=
  .number (if b then 1 else 0)

/-- The whole number that a number is, within the bounds of 64 bits. -/
def wholeNumber (x : Float) : Int :=
  if x < 0 then -((min (-x) 9223372036854775808.0).toUInt64.toNat : Int)
  else (x.toUInt64.toNat : Int)

/-- Whether a number is whole and within the bounds of 64 bits. -/
def isWhole (x : Float) : Bool :=
  x.floor == x && -9223372036854775808.0 ≤ x && x ≤ 18446744073709551616.0

/-- A whole number as octets. -/
def wholeText (x : Float) : List UInt8 :=
  textBytes (toString (wholeNumber x))

/-- A number among the conversions of a format. -/
def converted (d : Directive) (letter : Char) (x : Float) : Option (List UInt8) :=
  if x.isNaN then some (d.pad (textBytes "-nan"))
  else match d.numeral? letter (wholeNumber x) with
    | some bs => some bs
    | none => d.notation? letter ⟨x.toBits⟩

/-- A number as octets, by the format for numbers that are not whole. -/
def numberText (format : List UInt8) (x : Float) : List UInt8 :=
  if isWhole x then wholeText x
  else
    match charsOf format with
    | '%' :: rest =>
      let (d, rest) := readFlags {} rest
      let width := rest.takeWhile Char.isDigit
      let d := { d with width := decimalValue width }
      let rest := rest.drop width.length
      let (d, rest) := match rest with
        | '.' :: rest =>
          let ds := rest.takeWhile Char.isDigit
          ({ d with precision := some (decimalValue ds) }, rest.drop ds.length)
        | rest => (d, rest)
      match rest with
      | letter :: behind =>
        ((converted d letter x).getD []) ++ behind.map fun c => UInt8.ofNat c.toNat
      | [] => format
    | _ => format

/-- A value as octets. -/
def Cell.toText (format : List UInt8) : Cell → List UInt8
  | .empty => []
  | .number x => numberText format x
  | .text bs | .numeral bs _ => bs

/-- Whether one of two lists of octets comes first. -/
def before (a b : List UInt8) : Bool :=
  match a, b with
  | _, [] => false
  | [], _ :: _ => true
  | x :: a, y :: b => x < y || (x = y && before a b)

/-- Compares two values. -/
def Cell.compare (format : List UInt8) (c : Comparison) (a b : Cell) : Bool :=
  let numbers := match a, b with
    | .text _, _ | _, .text _ => false
    | _, _ => true
  if numbers then
    let (x, y) := (a.toNumber, b.toNumber)
    match c with
    | .less => x < y
    | .atMost => x ≤ y
    | .equal => x == y
    | .different => x != y
    | .greater => y < x
    | .atLeast => y ≤ x
  else
    let (x, y) := (a.toText format, b.toText format)
    match c with
    | .less => before x y
    | .atMost => !before y x
    | .equal => x = y
    | .different => x ≠ y
    | .greater => before y x
    | .atLeast => !before x y

/-! ## Arithmetic -/

/-- A finite number as a whole number of parts, of which there are `2 ^ scale` in one; the scale may
be negative. -/
def parts (x : Float) : Nat × Int :=
  let d : Double := ⟨x.toBits⟩
  if d.exponentBits = 0 then (d.fractionBits, 1074)
  else (d.fractionBits + Nat.pow 2 52, 1075 - (d.exponentBits : Int))

/-- What is left of a number when another one is taken off as often as possible. -/
def modulo (x y : Float) : Float :=
  if x.isNaN || y.isNaN || x.isInf || y == 0 then 0.0 / 0.0
  else if y.isInf then x
  else
    let (a, s) := parts x.abs
    let (b, t) := parts y.abs
    let scale := max s t
    let a := a * Nat.pow 2 (scale - s).toNat
    let b := b * Nat.pow 2 (scale - t).toNat
    let r := a % b
    let size :=
      if scale ≤ 0 then Float.ofNat (r * Nat.pow 2 (-scale).toNat)
      else Float.ofBits (Double.ofDecimal false (r * Nat.pow 5 scale.toNat) (-scale)).bits
    if x < 0 then -size else size

/-- The value of an operation. -/
def Operator.apply (op : Operator) (x y : Float) : Float :=
  match op with
  | .add => x + y
  | .subtract => x - y
  | .multiply => x * y
  | .divide => x / y
  | .remainder => modulo x y
  | .power => x.pow y

/-! ## Formats -/

/-- What a format gives: octets, and what is wrong with it. -/
structure FormatResult where
  bytes : List UInt8
  fault : Option String := none

/-- Octets and then what a format gives. -/
def FormatResult.behind (bs : List UInt8) (r : FormatResult) : FormatResult :=
  { r with bytes := bs ++ r.bytes }

/-- The number in a directive, which an asterisk takes from the values; none if there is no value
for it. -/
def directiveSize : List Char → List Cell → Option (Int × List Char × List Cell)
  | '*' :: _, [] => none
  | '*' :: rest, v :: vs => some (wholeNumber v.toNumber, rest, vs)
  | s, vs =>
    let ds := s.takeWhile Char.isDigit
    some (decimalValue ds, s.drop ds.length, vs)

/-- Writes values by a format. `text` makes texts of values, and `count` is the number of the next
conversion. -/
def formatCells (text : Cell → List UInt8) :
    (fuel : Nat) → (count : Nat) → List Char → List Cell → FormatResult
  | 0, _, _, _ | _, _, [], _ => ⟨[], none⟩
  | fuel + 1, count, '%' :: '%' :: rest, vs =>
    (formatCells text fuel count rest vs).behind [37]
  | fuel + 1, count, '%' :: rest, vs =>
    let missing : FormatResult := ⟨[], some "not enough arguments passed to "⟩
    let improper : FormatResult :=
      ⟨[], some ("improper conversion(number " ++ toString count ++ ") in ")⟩
    let (d, rest) := readFlags {} rest
    match directiveSize rest vs with
    | none => missing
    | some (width, rest, vs) =>
      let d := { d with left := d.left || width < 0, width := width.natAbs }
      let precise : Option (Directive × List Char × List Cell) := match rest with
        | '.' :: rest => do
          let (n, rest, vs) ← directiveSize rest vs
          return ({ d with precision := if n < 0 then none else some n.toNat }, rest, vs)
        | rest => some (d, rest, vs)
      match precise with
      | none => missing
      | some (d, rest, vs) =>
        match rest.dropWhile "hlLq".toList.contains, vs with
        | _, [] => missing
        | [], _ => improper
        | letter :: rest, v :: vs =>
          let bytes : Option (List UInt8) :=
            if letter = 's' then some (d.cut (text v))
            else if letter = 'c' then
              match v with
              | .number x | .numeral _ x => some (d.pad [UInt8.ofNat (wholeNumber x % 256).toNat])
              | v => some (d.pad [(text v).head?.getD 0])
            else if "diouxXeEfFgG".toList.contains letter then converted d letter v.toNumber
            else none
          match bytes with
          | none => improper
          | some bs => (formatCells text fuel (count + 1) rest vs).behind bs
  | fuel + 1, count, c :: rest, vs =>
    (formatCells text fuel count rest vs).behind [UInt8.ofNat c.toNat]

/-! ## Parts of texts -/

/-- How texts are cut. -/
inductive Splitter where
  | blanks
  | octet (b : UInt8)
  | everywhere
  | found (a : Automaton)

/-- The parts of a text between octets. -/
def splitAtOctet (b : UInt8) (bs : List UInt8) : List (List UInt8) :=
  bs.foldr
    (fun c parts =>
      if c = b then [] :: parts
      else match parts with
        | part :: rest => (c :: part) :: rest
        | [] => [[c]])
    [[]]

/-- The parts of a text between blanks. -/
def splitAtBlanks (bs : List UInt8) : List (List UInt8) :=
  ((splitAtOctet 32 (bs.map fun b => if isGap b then 32 else b)).filter (!·.isEmpty))

/-- The parts of a text between what is found, from a place on. -/
def splitAtFound (a : Automaton) (s : Subject) :
    (fuel : Nat) → (start look : Nat) → List (List UInt8)
  | 0, start, _ => [(s.octets.extract start s.octets.size).toList]
  | fuel + 1, start, look =>
    match a.find s look with
    | none => [(s.octets.extract start s.octets.size).toList]
    | some f =>
      if f.start = f.stop then splitAtFound a s fuel start (look + 1)
      else (s.octets.extract start f.start).toList :: splitAtFound a s fuel f.stop f.stop

/-- The parts of a text. -/
def Splitter.parts (s : Splitter) (bs : List UInt8) : List (List UInt8) :=
  if bs.isEmpty then []
  else match s with
    | .blanks => splitAtBlanks bs
    | .octet b => splitAtOctet b bs
    | .everywhere => bs.map fun b => [b]
    | .found a => splitAtFound a { octets := ⟨bs.toArray⟩ } (bs.length + 1) 0 0

/-- The place at which a text stands in another one, counted from one; zero if it does not. -/
def placeOf (part : List UInt8) : (place : Nat) → List UInt8 → Nat
  | _, [] => 0
  | place, b :: bs =>
    if part.isPrefixOf (b :: bs) then place
    else placeOf part (place + 1) bs

/-- What is put in the place of a match. -/
def substituted (matched : List UInt8) : List UInt8 → List UInt8
  | 92 :: 92 :: 38 :: rest => 92 :: (matched ++ substituted matched rest)
  | 92 :: 38 :: rest => 38 :: substituted matched rest
  | 38 :: rest => matched ++ substituted matched rest
  | b :: rest => b :: substituted matched rest
  | [] => []

/-- Replaces matches from a place on: the octets from there, and how many were replaced. `after` is
the end of the match in front. -/
def replaceMatches (a : Automaton) (every : Bool) (text : List UInt8) (s : Subject) :
    (fuel : Nat) → (place : Nat) → (after : Option Nat) → List UInt8 × Nat
  | 0, place, _ => ((s.octets.extract place s.octets.size).toList, 0)
  | fuel + 1, place, after =>
    let rest (start : Nat) : List UInt8 := (s.octets.extract start s.octets.size).toList
    match a.find s place with
    | none => (rest place, 0)
    | some f =>
      let front := (s.octets.extract place f.start).toList
      if f.start = f.stop then
        -- Behind an empty match an octet stays as it is.
        let here := if after = some f.start then [] else substituted [] text
        let count := if after = some f.start then 0 else 1
        match rest f.start with
        | [] => (front ++ here, count)
        | b :: behind =>
          if count = 1 && !every then (front ++ here ++ b :: behind, 1)
          else
            let (more, n) := replaceMatches a every text s fuel (f.start + 1) none
            (front ++ here ++ b :: more, count + n)
      else
        let here := substituted (s.octets.extract f.start f.stop).toList text
        if !every then (front ++ here ++ rest f.stop, 1)
        else
          let (more, n) := replaceMatches a every text s fuel f.stop (some f.stop)
          (front ++ here ++ more, n + 1)

/-- A part of a text from a place on, counted from one, and of a length if there is one. -/
def partFrom (bs : List UInt8) (start : Int) (length : Option Int) : List UInt8 :=
  let (start, length) := if start ≤ 0 then (1, length.map (· - start)) else (start, length)
  let rest := bs.drop (start - 1).toNat
  match length with
  | some n => rest.take n.toNat
  | none => rest

end Assay.Awk
