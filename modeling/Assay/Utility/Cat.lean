import Assay.Utility.Basic

/-!
# Joining files

`cat` prints what its operands hold, one behind the other, and on demand with numbers in front of
the lines, with marks at their ends, or with marks in the place of octets that are not printed.
`tac` prints the lines in the opposite order, and `rev` the characters of each line.
-/

namespace Assay.Shell

/-- What shows an octet that is not printed; an octet beyond ASCII is shown by the one below. -/
def visibleByte (b : UInt8) : List UInt8 :=
  let low (b : UInt8) : List UInt8 :=
    if b < 32 then [94, b + 64] else if b = 127 then [94, 63] else [b]
  if b < 128 then low b else [77, 45] ++ low (b - 128)

/-- How the lines of files are shown. -/
structure LineStyle where
  numbered : Bool
  /-- Whether only lines that are not empty have numbers. -/
  numberedFull : Bool
  ends : Bool
  tabs : Bool
  visible : Bool
  /-- Whether of several empty lines only one is shown. -/
  squeezed : Bool

/-- Whether lines are shown as they are. -/
def LineStyle.isPlain (s : LineStyle) : Bool :=
  !(s.numbered || s.numberedFull || s.ends || s.tabs || s.visible || s.squeezed)

/-- An octet as it is shown. -/
def LineStyle.byte (s : LineStyle) (b : UInt8) : List UInt8 :=
  if b = 9 then (if s.tabs then [94, 73] else [9])
  else if s.visible then visibleByte b
  else [b]

/-- A line as it is shown, behind so many numbered ones. -/
def LineStyle.line (s : LineStyle) (number : Option Nat) (line : List UInt8) : List UInt8 :=
  let ended := line.getLast? = some 10
  let body := if ended then line.dropLast else line
  let front := number.elim [] fun n => textBytes (padLeft 6 (toString n) ++ "\t")
  let shown :=
    if s.ends && ended && !s.visible && body.getLast? = some 13 then
      body.dropLast.flatMap s.byte ++ [94, 77]
    else body.flatMap s.byte
  front ++ shown ++ if ended then (if s.ends then [36, 10] else [10]) else []

/-- Lines as they are shown, behind so many numbered ones; `wasEmpty` says whether the line in front
was empty. -/
def LineStyle.lines (s : LineStyle) : (number : Nat) → (wasEmpty : Bool) → List (List UInt8) →
    List (List UInt8)
  | _, _, [] => []
  | n, wasEmpty, l :: rest =>
    let empty := l = [10]
    if s.squeezed && empty && wasEmpty then s.lines n true rest
    else if s.numberedFull && !empty || s.numbered && !s.numberedFull then
      s.line (some (n + 1)) l :: s.lines (n + 1) empty rest
    else s.line none l :: s.lines n empty rest

/-- `cat` prints what its operands hold. -/
def cat : Utility :=
  withOptions "cat" "AbeEnstTuv" "" 1
    (fun o => do
      if (← streamOf 1) = .closed then
        complain ("cat: standard output: " ++ Host.Fault.badStream.words)
        return 1
      let all := o.has 'A'
      let style : LineStyle :=
        { numbered := o.has 'n'
          numberedFull := o.has 'b'
          ends := all || o.has 'e' || o.has 'E'
          tabs := all || o.has 't' || o.has 'T'
          visible := all || o.has 'e' || o.has 't' || o.has 'v'
          squeezed := o.has 's' }
      let status ←
        if style.isPlain then
          forOperands (fun path => do
            match ← readOperand none path with
            | .ok bytes =>
              write 1 bytes
              return true
            | .error fault =>
              unreadable "cat" path fault
              return false) (orInput o.operands)
        else do
          let (bytes, done) ← readAll "cat" (readOperand none) (orInput o.operands)
          printBytes (style.lines 0 false (byteLines bytes.toList)).flatten
          pure (if done then 0 else 1)
      if (orInput o.operands).contains "-" && (← streamOf 0) = .closed then
        complain ("cat: closing standard input: " ++ Host.Fault.badStream.words)
      return status)
    [("show-all", 'A'), ("number-nonblank", 'b'), ("show-ends", 'E'), ("number", 'n'),
      ("squeeze-blank", 's'), ("show-tabs", 'T'), ("show-nonprinting", 'v')]

/-- `tac` prints the lines of its operands in the opposite order. -/
def tac : Utility :=
  withOptions "tac" "b" "s" 1 fun o => do
    forOperands (fun path => do
      match ← readWhole path with
      | .ok bytes =>
        printBytes (byteLines bytes.toList).reverse.flatten
        return true
      | .error .isDirectory =>
        complain ("tac: " ++ path ++ ": read error: " ++ Host.Fault.isDirectory.words)
        return false
      | .error fault =>
        complain ("tac: failed to open " ++ quotedName path ++ " for reading: " ++ fault.words)
        return false) (orInput o.operands)

/-- `rev` prints the characters of each line in the opposite order. -/
def rev : Utility :=
  withOptions "rev" "" "" 1 fun o => do
    forOperands (fun path => do
      match ← readOperand none path with
      | .ok bytes =>
        printBytes ((byteLines bytes.toList).flatMap fun l =>
          if l.getLast? = some 10 then l.dropLast.reverse ++ [10] else l.reverse)
        return true
      | .error fault =>
        complain ("rev: cannot open " ++ path ++ ": " ++ fault.words)
        return false) (orInput o.operands)

end Assay.Shell
