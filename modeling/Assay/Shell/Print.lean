import Assay.Number.Notation
import Assay.Shell.Arithmetic
import Assay.Text.Bytes

/-!
# Printing

The bytes that `echo` and `printf` print. Escapes stand for control characters and for bytes by
their octal number. A format is gone through once, and again as long as there are arguments left.
-/

namespace Assay.Shell

/-- The bytes of a character. -/
def charBytes (c : Char) : List UInt8 :=
  (String.singleton c).toUTF8.toList

/-- The bytes of a text. -/
def textBytes (s : String) : List UInt8 :=
  s.toUTF8.toList

/-- What a one-letter escape stands for. -/
def letterEscape? : Char → Option UInt8
  | 'a' => some 7
  | 'b' => some 8
  | 'e' => some 27
  | 'f' => some 12
  | 'n' => some 10
  | 'r' => some 13
  | 't' => some 9
  | 'v' => some 11
  | '\\' => some 92
  | _ => none

/-- Whether a character is an octal digit. -/
def isOctal (c : Char) : Bool :=
  '0' ≤ c && c ≤ '7'

/-- The byte that at most so many octal digits in front number, and the text behind them. -/
def octalByte (most : Nat) (s : List Char) : UInt8 × List Char :=
  let digits := (s.take most).takeWhile isOctal
  let n := digits.foldl (fun n c => 8 * n + (c.toNat - '0'.toNat)) 0
  (UInt8.ofNat n, s.drop digits.length)

/-- Bytes to be printed, and whether an escape ended the printing. -/
structure Printout where
  bytes : List UInt8 := []
  ended : Bool := false

/-- Bytes and then what a printout has. -/
def Printout.behind (bytes : List UInt8) (p : Printout) : Printout :=
  { p with bytes := bytes ++ p.bytes }

/-- The bytes of a text with escapes, which may be as long as the fuel. Behind a zero up to three
more digits belong to a number. -/
def escapedBytes : (fuel : Nat) → List Char → Printout
  | 0, _ => {}
  | _ + 1, [] => {}
  | fuel + 1, '\\' :: c :: rest =>
    if c = 'c' then { ended := true }
    else if isOctal c then
      let (b, rest) := octalByte 3 (if c = '0' then rest else c :: rest)
      (escapedBytes fuel rest).behind [b]
    else match letterEscape? c with
      | some b => (escapedBytes fuel rest).behind [b]
      | none => (escapedBytes fuel rest).behind (92 :: charBytes c)
  | fuel + 1, c :: rest => (escapedBytes fuel rest).behind (charBytes c)

/-- What `echo` prints. -/
def echoed (args : List String) : Printout :=
  let (newline, args) := match args with
    | "-n" :: rest => (false, rest)
    | args => (true, args)
  let text := (" ".intercalate args).toList
  let p := escapedBytes (text.length + 1) text
  if newline && !p.ended then { p with bytes := p.bytes ++ [10] } else p

/-! ## Formats -/

/-- A directive of a format. -/
structure Directive where
  left : Bool := false
  zeros : Bool := false
  plus : Bool := false
  blank : Bool := false
  alternate : Bool := false
  width : Nat := 0
  precision : Option Nat := none

/-- The flags in front of a text. -/
def readFlags (d : Directive) : List Char → Directive × List Char
  | '-' :: s => readFlags { d with left := true } s
  | '0' :: s => readFlags { d with zeros := true } s
  | '+' :: s => readFlags { d with plus := true } s
  | '#' :: s => readFlags { d with alternate := true } s
  | ' ' :: s => readFlags { d with blank := true } s
  | s => (d, s)

/-- A number of decimal digits. -/
def decimalValue (ds : List Char) : Nat :=
  ds.foldl (fun n c => 10 * n + (c.toNat - '0'.toNat)) 0

/-- Bytes made as wide as a directive says. -/
def Directive.pad (d : Directive) (bytes : List UInt8) : List UInt8 :=
  let gap := d.width - bytes.length
  if d.left then bytes ++ List.replicate gap 32 else List.replicate gap 32 ++ bytes

/-- A number in a base. -/
def inBase (base : Nat) (upper : Bool) (n : Nat) : String :=
  let s := String.ofList (Nat.toDigits base n)
  if upper then s.toUpper else s

/-- A number made as a directive says. -/
def Directive.number (d : Directive) (minus : Bool) (digits : String) : List UInt8 :=
  let sign := if minus then "-" else if d.plus then "+" else if d.blank then " " else ""
  let least := d.precision.getD (if d.zeros && !d.left then d.width - sign.length else 0)
  let zeros := String.ofList (List.replicate (least - digits.length) '0')
  d.pad (textBytes (sign ++ zeros ++ digits))

/-- What is wrong with a text of which so much was not read as a number. -/
def numberFault (s : String) (left : Nat) (tooGreat : Bool) : Option String :=
  let fault :=
    if left = s.length && left > 0 then some "expected numeric value"
    else if left > 0 then some "not completely converted"
    else if tooGreat then some "Numerical result out of range"
    else none
  fault.map fun f => s ++ ": " ++ f

/-- The number of the first octet behind a quote, if a text begins with one. -/
def quotedNumber? (s : String) : Option Nat :=
  match s.toList with
  | '\'' :: cs | '"' :: cs => some ((cs.flatMap charBytes).head?.elim 0 UInt8.toNat)
  | _ => none

/-- The whole number that an argument writes, and what is wrong with it. -/
def argumentNumber (s : String) : Int × Option String :=
  match quotedNumber? s with
  | some n => (n, none)
  | none =>
    let cs := s.toList.dropWhile Char.isWhitespace
    let (minus, cs) := match cs with
      | '-' :: cs => (true, cs)
      | '+' :: cs => (false, cs)
      | cs => (false, cs)
    match unsignedNumber cs with
    | none => (0, numberFault s s.length false)
    | some (n, rest) =>
      let most := (min n maxNumber : Nat)
      (if minus then -(most : Int) else most, numberFault s rest.length (n > maxNumber))

/-- The number that an argument writes, and what is wrong with it. -/
def argumentDouble (s : String) : Number.Double × Option String :=
  match quotedNumber? s with
  | some n => (.ofDecimal false n 0, none)
  | none =>
    match Number.Double.read? s.toList with
    | some (x, rest) => (x, numberFault s rest.length false)
    | none => (.ofDecimal false 0 0, numberFault s s.length false)

/-- What a format prints: the bytes, the faults, the arguments left, whether it took any, and the
status if it ended early. -/
structure Formatted where
  bytes : List UInt8 := []
  faults : List String := []
  args : List String
  took : Bool := false
  ended : Option Nat := none

/-- The status of a format that was gone through. -/
def Formatted.status (f : Formatted) : Nat :=
  f.ended.getD (if f.faults.isEmpty then 0 else 1)

/-- More bytes printed. -/
def Formatted.add (f : Formatted) (bytes : List UInt8) : Formatted :=
  { f with bytes := f.bytes ++ bytes }

/-- The next argument, which is empty behind the last one. -/
def Formatted.next (f : Formatted) : String × Formatted :=
  (f.args.head?.getD "", { f with args := f.args.tail, took := true })

/-- Ends a format that is none. -/
def Formatted.refuse (f : Formatted) (fault : String) : Formatted :=
  { f with faults := f.faults ++ [fault], ended := some 2 }

/-- A number by the letter of its directive. -/
def Directive.numeral? (d : Directive) (letter : Char) (n : Int) : Option (List UInt8) :=
  let unsigned := if n < 0 then (n + Nat.pow 2 64).toNat else n.toNat
  let bare := { d with plus := false, blank := false }
  match letter with
  | 'd' | 'i' => some (d.number (n < 0) (toString n.natAbs))
  | 'u' => some (bare.number false (toString unsigned))
  | 'o' =>
    some (bare.number false
      ((if d.alternate && unsigned ≠ 0 then "0" else "") ++ inBase 8 false unsigned))
  | 'x' =>
    some (bare.number false
      ((if d.alternate && unsigned ≠ 0 then "0x" else "") ++ inBase 16 false unsigned))
  | 'X' =>
    some (bare.number false
      ((if d.alternate && unsigned ≠ 0 then "0X" else "") ++ inBase 16 true unsigned))
  | _ => none

/-- A number in a notation by the letter of its directive. -/
def Directive.notation? (d : Directive) (letter : Char) (x : Number.Double) :
    Option (List UInt8) :=
  let precision := d.precision.getD 6
  let size := Number.Magnitude.ofDouble x
  let digits :=
    if !x.isFinite then (if x.isNaN then "nan" else "inf").toList
    else match letter.toLower with
      | 'f' => size.fixed precision d.alternate
      | 'e' => size.scientific precision d.alternate
      | _ => size.general precision d.alternate
  let text := String.ofList digits
  let d := { d with precision := none, zeros := d.zeros && x.isFinite }
  if "feg".toList.contains letter.toLower then
    some (d.number x.isNegative (if letter.isUpper then text.toUpper else text))
  else none

/-- Bytes cut and made as wide as a directive says. -/
def Directive.cut (d : Directive) (bytes : List UInt8) : List UInt8 :=
  d.pad (match d.precision with
    | some n => bytes.take n
    | none => bytes)

/-- Prints the next argument as a directive with its letter says. -/
def Formatted.convert (f : Formatted) (d : Directive) (letter : Char) : Formatted :=
  let (arg, f') := f.next
  match letter with
  | 's' => f'.add (d.cut (textBytes arg))
  | 'c' => f'.add (d.pad [(textBytes arg).head?.getD 0])
  | 'b' =>
    let p := escapedBytes (arg.length + 1) arg.toList
    let f' := f'.add (d.cut p.bytes)
    if p.ended then { f' with ended := some f'.status } else f'
  | letter =>
    let (n, fault) := argumentNumber arg
    let (x, doubleFault) := argumentDouble arg
    match d.numeral? letter n, d.notation? letter x with
    | some bytes, _ => { f'.add bytes with faults := f.faults ++ fault.toList }
    | none, some bytes => { f'.add bytes with faults := f.faults ++ doubleFault.toList }
    | none, none => f.refuse ("%" ++ String.singleton letter ++ ": invalid directive")

/-- The number that stands in front of a text for a width or precision, or that an asterisk there
takes from the arguments; and the text behind it. -/
def Formatted.size (f : Formatted) : List Char → Int × List Char × Formatted
  | '*' :: s =>
    let (arg, f') := f.next
    let (n, fault) := argumentNumber arg
    (n, s, { f' with faults := f.faults ++ fault.toList })
  | s =>
    let ds := s.takeWhile Char.isDigit
    (decimalValue ds, s.drop ds.length, f)

/-- The directive in front of a text, and the text behind it. A negative width asks for what is
narrower to stand at the left. -/
def Formatted.directive (f : Formatted) (s : List Char) : Directive × List Char × Formatted :=
  let (d, s) := readFlags {} s
  let (width, s, f) := f.size s
  let d := { d with left := d.left || width < 0, width := width.natAbs }
  match s with
  | '.' :: s =>
    let (precision, s, f) := f.size s
    ({ d with precision := if precision < 0 then none else some precision.toNat }, s, f)
  | s => (d, s, f)

/-- Goes through a format, which may be as long as the fuel. -/
def formatOnce : (fuel : Nat) → List Char → Formatted → Formatted
  | 0, _, f => f
  | _ + 1, [], f => f
  | fuel + 1, '\\' :: c :: rest, f =>
    if isOctal c then
      let (b, rest) := octalByte 3 (c :: rest)
      formatOnce fuel rest (f.add [b])
    else formatOnce fuel rest (f.add ((letterEscape? c).elim (92 :: charBytes c) fun b => [b]))
  | fuel + 1, '%' :: '%' :: rest, f => formatOnce fuel rest (f.add [37])
  | fuel + 1, '%' :: rest, f =>
    let (d, rest, f) := f.directive rest
    match rest with
    | [] => f.refuse "missing format character"
    | letter :: rest =>
      let f := f.convert d letter
      if f.ended.isSome then f else formatOnce fuel rest f
  | fuel + 1, c :: rest, f => formatOnce fuel rest (f.add (charBytes c))

/-- Goes through a format as long as there are arguments left. Each round takes one at least. -/
def formatAll (format : List Char) : (rounds : Nat) → Formatted → Formatted
  | 0, f => f
  | rounds + 1, f =>
    let f := formatOnce (format.length + 1) format { f with took := false }
    if f.ended.isSome || !f.took || f.args.isEmpty then f else formatAll format rounds f

/-- What `printf` prints. -/
def formatted (format : String) (args : List String) : Formatted :=
  formatAll format.toList (args.length + 1) { args }

end Assay.Shell
