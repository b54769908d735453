import Assay.Number.Notation
import Assay.Utility.Basic

/-!
# Sequences

`seq` prints numbers from one to another, in decimal notation with as many digits behind the point
as they are written with. `yes` prints a line without end.
-/

namespace Assay.Shell

/-- A decimal number as it is written: its value times a power of ten, and the width of its
text. -/
structure Decimal where
  /-- The value times ten to the power of `places`. -/
  scaled : Int
  places : Nat
  width : Nat

/-- The decimal number that a text writes. -/
def decimal? (s : String) : Option Decimal :=
  let cs := s.toList.dropWhile fun c => c = ' ' || c = '\t'
  let (minus, digits) := match cs with
    | '-' :: ds => (true, ds)
    | '+' :: ds => (false, ds)
    | ds => (false, ds)
  match Number.writtenDecimal? digits with
  | some w =>
    if !w.rest.isEmpty then none
    else
      let scaled := w.mantissa * Nat.pow 10 w.exponent.toNat
      some
        { scaled := if minus then -(scaled : Int) else scaled
          places := (-w.exponent).toNat
          width := cs.length }
  | none => none

/-- The value with so many digits behind the point. -/
def Decimal.scale (d : Decimal) (places : Nat) : Int :=
  d.scaled * (Nat.pow 10 (places - d.places) : Nat)

/-- A number that was scaled, with so many digits behind the point, rounded. -/
def scaledText (n : Int) (scale places : Nat) (width : Nat) : String :=
  let size : Number.Magnitude := ⟨n.natAbs, Nat.pow 10 scale⟩
  let ds := size.fixed places false
  let sign := if n < 0 then ['-'] else []
  String.ofList (sign ++ Number.Magnitude.padded (width - sign.length) ds)

/-- How `seq` prints numbers. -/
structure SequenceStyle where
  separator : String := "\n"
  equalWidth : Bool := false
  format : Option String := none

/-- The options in front of the numbers; an error is a message. -/
def sequenceStyle : (fuel : Nat) → SequenceStyle → List String →
    Except String (SequenceStyle × List String)
  | 0, style, args => .ok (style, args)
  | _ + 1, style, [] => .ok (style, [])
  | fuel + 1, style, arg :: rest =>
    let valued (what : String) (set : String → SequenceStyle) :
        Except String (SequenceStyle × List String) :=
      match rest with
      | v :: rest => sequenceStyle fuel (set v) rest
      | [] => .error ("option requires an argument -- '" ++ what ++ "'")
    match arg.toList with
    | ['-', '-'] => .ok (style, rest)
    | '-' :: '-' :: long =>
      let name := String.ofList (long.takeWhile (· ≠ '='))
      let value := String.ofList (long.drop (name.length + 1))
      if name = "equal-width" then sequenceStyle fuel { style with equalWidth := true } rest
      else if name = "separator" && long.contains '=' then
        sequenceStyle fuel { style with separator := value } rest
      else if name = "format" && long.contains '=' then
        sequenceStyle fuel { style with format := some value } rest
      else .error ("unrecognized option '" ++ arg ++ "'")
    | '-' :: c :: more =>
      if c.isDigit || c = '.' then .ok (style, arg :: rest)
      else if c = 'w' then
        let rest := if more.isEmpty then rest else String.ofList ('-' :: more) :: rest
        sequenceStyle fuel { style with equalWidth := true } rest
      else if c = 's' then
        if more.isEmpty then valued "s" fun v => { style with separator := v }
        else sequenceStyle fuel { style with separator := String.ofList more } rest
      else if c = 'f' then
        if more.isEmpty then valued "f" fun v => { style with format := some v }
        else sequenceStyle fuel { style with format := some (String.ofList more) } rest
      else .error ("invalid option -- '" ++ String.singleton c ++ "'")
    | _ => .ok (style, arg :: rest)

/-- A number in the place of the directive of a format. -/
def formattedNumber (format : String) (n : Int) (scale : Nat) : List UInt8 :=
  let text := scaledText n scale scale 0
  (formatted format [text]).bytes

/-- How many numbers are printed at once. -/
def sequencePart : Nat := 1000

/-- Prints numbers by a step, so many at most, in parts; `first` says whether one was printed. -/
def printNumbers (style : SequenceStyle) (shown : Int → List UInt8) (step last : Int) :
    (parts : Nat) → (first : Bool) → Int → Eval Unit
  | 0, _, _ => return ()
  | parts + 1, first, n => do
    let within (m : Int) : Bool := if step > 0 then m ≤ last else last ≤ m
    let numbers := ((List.range sequencePart).map fun (i : Nat) => n + step * i).takeWhile within
    match numbers with
    | [] => if !first then print "\n"
    | numbers =>
      let separator := textBytes style.separator
      let texts := numbers.flatMap fun m => separator ++ shown m
      printBytes (if first then texts.drop separator.length else texts)
      if numbers.length < sequencePart then print "\n"
      else printNumbers style shown step last parts false (n + step * sequencePart)

/-- Prints the numbers from one to another. -/
def printSequence (style : SequenceStyle) (first step last : Decimal) : Eval Nat := do
  let places := max first.places step.places
  let scale := max places last.places
  let width :=
    if !style.equalWidth then 0
    else
      let wide (d : Decimal) : Nat :=
        d.width + places - d.places -
          (if d.places > 0 && places = 0 then 1 else 0) +
          (if d.places = 0 && places > 0 then 1 else 0)
      max (wide first) (wide last)
  let shown (n : Int) : List UInt8 :=
    match style.format with
    | some f => formattedNumber f n scale
    | none => textBytes (scaledText n scale places width)
  let a := first.scale scale
  let d := step.scale scale
  let b := last.scale scale
  let parts := (b - a).natAbs / d.natAbs / sequencePart + 2
  printNumbers style shown d b parts true a
  return 0

/-- `seq` prints numbers. -/
def seq : Utility := fun args => do
  match sequenceStyle (args.length + args.length + 8) {} args with
  | .error message =>
    misused "seq" message
    return 1
  | .ok (style, args) =>
    match args.find? fun a => (decimal? a).isNone with
    | some a =>
      if a = "inf" && args.getLast? = some a && args.length > 0 then
        let first := (args.dropLast.filterMap decimal?).head?.getD ⟨1, 0, 1⟩
        let step := if args.length = 3 then
          ((args.dropLast.filterMap decimal?).getLast?).getD ⟨1, 0, 1⟩ else ⟨1, 0, 1⟩
        let _ ← printSequence style first step ⟨endlessPart, 0, 1⟩
        changeWorld fun w => { w with hungry := true }
        return 0
      misused "seq" ("invalid floating point argument: " ++ quotedName a)
      return 1
    | none =>
      let one : Decimal := ⟨1, 0, 1⟩
      let range (first step last : Decimal) : Eval Nat := do
        if step.scaled = 0 then
          misused "seq" ("invalid Zero increment value: " ++ quotedName ((args[1]?).getD ""))
          return 1
        else printSequence style first step last
      match args.filterMap decimal? with
      | [] =>
        misused "seq" "missing operand"
        return 1
      | [last] => range one one last
      | [first, last] => range first one last
      | [first, step, last] => range first step last
      | _ =>
        misused "seq" ("extra operand " ++ quotedName ((args[3]?).getD ""))
        return 1

/-- `yes` prints a line until it is not read any more. -/
def yes : Utility :=
  withOptions "yes" "" "" 1 fun o => do
    let line := (if o.operands.isEmpty then "y" else " ".intercalate o.operands) ++ "\n"
    let bytes := textBytes line
    match ← streamOf 1 with
    | .channel i =>
      match ((← world).channels[i]?).bind Channel.limit with
      | some limit =>
        printBytes (List.replicate (limit / bytes.length + 1) bytes).flatten
        throw .timeOver
      | none => throw .timeOver
    | .closed =>
      complain ("yes: standard output: " ++ Host.Fault.badStream.words)
      return 1
    | .endless false =>
      complain ("yes: standard output: " ++ Host.Fault.noSpace.words)
      return 1
    | _ => throw .timeOver

end Assay.Shell
