import Assay.Utility.Expression.Match
import Assay.Utility.Expression.Parser
import Assay.Utility.Sort

/-!
# Numbering lines

`nl` prints lines with their numbers. A text may have pages with a header, a body and a footer,
which are told apart by lines of marks; each of the three is numbered in its own way.
-/

namespace Assay.Shell

open Machine Host

/-- Which lines are numbered. -/
inductive Numbered where
  | every
  | filled
  | none
  | found (a : Expression.Automaton)

/-- The parts of a page. -/
inductive PagePart where
  | header
  | body
  | footer
deriving DecidableEq

/-- How lines are numbered. -/
structure Numbering where
  header : Numbered := .none
  body : Numbered := .filled
  footer : Numbered := .none
  first : Int := 1
  step : Int := 1
  width : Nat := 6
  gap : String := "\t"
  /-- How numbers stand in their columns. -/
  format : String := "rn"
  /-- Of how many empty lines one is numbered. -/
  blanks : Nat := 1
  /-- The marks that tell the parts of pages apart. -/
  mark : List UInt8 := [92, 58]
  /-- Whether the numbers go on from page to page. -/
  goesOn : Bool := false

/-- The part of a page that begins at a line. -/
def Numbering.partAt (n : Numbering) (line : List UInt8) : Option PagePart :=
  if n.mark.isEmpty then .none
  else if line = n.mark ++ n.mark ++ n.mark then some .header
  else if line = n.mark ++ n.mark then some .body
  else if line = n.mark then some .footer
  else .none

/-- A number in its column. -/
def Numbering.column (n : Numbering) (number : Int) : String :=
  let text := toString number
  if n.format = "ln" then padRight n.width text
  else if n.format = "rz" then
    let digits := toString number.natAbs
    let sign := if number < 0 then "-" else ""
    sign ++ String.ofList (List.replicate (n.width - sign.length - digits.length) '0') ++ digits
  else padLeft n.width text

/-- The lines as they are printed; `empties` is the number of empty lines in front that were not
numbered. -/
def Numbering.apply (n : Numbering) :
    (part : PagePart) → (number : Int) → (empties : Nat) → List (List UInt8) → List (List UInt8)
  | _, _, _, [] => []
  | part, number, empties, line :: rest =>
    match n.partAt line with
    | some p => [] :: n.apply p (if n.goesOn then number else n.first) 0 rest
    | .none =>
      let how := match part with
        | .header => n.header
        | .body => n.body
        | .footer => n.footer
      let (chosen, empties) : Bool × Nat := match how with
        | .every =>
          if n.blanks > 1 && line.isEmpty then
            (empties + 1 = n.blanks, if empties + 1 = n.blanks then 0 else empties + 1)
          else (true, 0)
        | .filled => (!line.isEmpty, 0)
        | .none => (false, 0)
        | .found a => (a.occursIn { octets := ⟨line.toArray⟩ }, 0)
      if chosen then
        ((n.column number ++ n.gap).toUTF8.toList ++ line) ::
          n.apply part (number + n.step) empties rest
      else
        (List.replicate (n.width + n.gap.utf8ByteSize) 32 ++ line) ::
          n.apply part number empties rest

/-- Which lines a letter says to number. -/
def numbered? (style : String) : Option Numbered :=
  match style.toList with
  | ['a'] => some .every
  | ['t'] => some .filled
  | ['n'] => some .none
  | 'p' :: pattern =>
    (Expression.compile { extended := false } false
      (String.ofList pattern).toUTF8.toList).toOption.map .found
  | _ => .none

/-- A whole number. -/
def signedNumber? (s : String) : Option Int :=
  match s.toList with
  | '-' :: ds => (naturalNumber? (String.ofList ds)).map fun n => -(n : Int)
  | '+' :: ds => (naturalNumber? (String.ofList ds)).map Int.ofNat
  | _ => (naturalNumber? s).map Int.ofNat

/-- How options say that lines are numbered; an error is a message, and whether the call is wrong
as such. -/
def numberingOf (o : Options) : Except (String × Bool) Numbering := do
  let style (c : Char) (what : String) (default : Numbered) : Except (String × Bool) Numbered :=
    match o.value? c with
    | .none => .ok default
    | some v =>
      match numbered? v with
      | some n => .ok n
      | .none => .error ("invalid " ++ what ++ " numbering style: " ++ quotedName v, true)
  let number (c : Char) (what : String) (default : Int) (least : Option Int) :
      Except (String × Bool) Int :=
    match o.value? c with
    | .none => .ok default
    | some v =>
      match signedNumber? v with
      | .none => .error ("invalid " ++ what ++ ": " ++ quotedName v, false)
      | some n =>
        if least.any (n < ·) then
          .error ("invalid " ++ what ++ ": " ++ quotedName v ++ ": Numerical result out of range",
            false)
        else .ok n
  let format := (o.value? 'n').getD "rn"
  let header ← style 'h' "header" .none
  let body ← style 'b' "body" .filled
  let footer ← style 'f' "footer" .none
  let first ← number 'v' "starting line number" 1 .none
  let step ← number 'i' "line number increment" 1 .none
  let blanks ← number 'l' "line number of blank lines" 1 (some 1)
  let width ← number 'w' "line number field width" 6 (some 1)
  if format ∉ ["ln", "rn", "rz"] then
    throw ("invalid line numbering format: " ++ quotedName format, true)
  let mark := match (o.value? 'd').map (·.toUTF8.toList) with
    | .none => [92, 58]
    | some [b] => [b, 58]
    | some bs => bs
  return {
    header, body, footer, first, step, format, mark
    width := width.toNat, blanks := blanks.toNat
    gap := (o.value? 's').getD "\t", goesOn := o.has 'p' }

/-- `nl` numbers lines. -/
def nl : Utility :=
  withOptions "nl" "p" "bdfhilnsvw" 1
    (fun o => do
      match numberingOf o with
      | .error (message, wrongCall) =>
        if wrongCall then misused "nl" message else complain ("nl: " ++ message)
        return 1
      | .ok n =>
        let (bytes, done) ← readAll "nl" readWhole (orInput o.operands)
        printByteLines (n.apply .body n.first 0 (linesEndedBy 10 bytes.toList))
        return if done then 0 else 1)
    [("body-numbering", 'b'), ("section-delimiter", 'd'), ("footer-numbering", 'f'),
      ("header-numbering", 'h'), ("line-increment", 'i'), ("join-blank-lines", 'l'),
      ("number-format", 'n'), ("no-renumber", 'p'), ("number-separator", 's'),
      ("starting-line-number", 'v'), ("number-width", 'w')]

end Assay.Shell
