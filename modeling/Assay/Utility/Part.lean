import Assay.Utility.Basic

/-!
# Parts of files

`head` prints the front and `tail` the back of files, by lines or by octets. Who reads from a file
that others read on leaves it behind the part that was printed.
-/

namespace Assay.Shell

open Machine Host

/-- What part of a file is to be printed: so many lines or bytes. -/
structure Share where
  bytes : Bool
  count : Nat
  /-- Whether the count is that of what is left out. -/
  without : Bool := false

/-- The units behind counts. -/
def countUnits : List (String × Nat) :=
  [("", 1), ("b", 512), ("kB", 1000), ("k", 1024), ("K", 1024), ("KiB", 1024), ("MB", 1000000),
    ("M", 1048576), ("m", 1048576), ("MiB", 1048576), ("GB", 1000000000), ("G", 1073741824),
    ("GiB", 1073741824)]

/-- The number that a text writes, with a unit or none. -/
def countedNumber? (s : String) : Option Nat :=
  let cs := s.toList
  let ds := cs.takeWhile Char.isDigit
  if ds.isEmpty then none
  else (countUnits.lookup (String.ofList (cs.drop ds.length))).map (decimalValue ds * ·)

/-- Arguments in which a number behind a sign stands for a number of lines or bytes. -/
def withLineCount (signs : List Char) : List String → List String
  | arg :: rest =>
    match arg.toList with
    | sign :: d :: ds =>
      if signs.contains sign && d.isDigit then
        let digits := (d :: ds).takeWhile Char.isDigit
        let number := String.ofList (if sign = '+' then '+' :: digits else digits)
        match (d :: ds).drop digits.length with
        | [] => "-n" :: number :: rest
        | ['c'] => "-c" :: number :: rest
        | ['l'] => "-n" :: number :: rest
        | ['q'] => "-q" :: "-n" :: number :: rest
        | ['v'] => "-v" :: "-n" :: number :: rest
        | _ => arg :: rest
      else arg :: rest
    | _ => arg :: rest
  | [] => []

/-- The share that options ask for, with the sign that leaves out; an error is a message. -/
def shareOf (o : Options) (sign : Char) : Except String Share :=
  let share (bytes : Bool) (what value : String) : Except String Share :=
    let (without, digits) := match value.toList with
      | c :: cs =>
        if c = sign then (true, String.ofList cs)
        else if c = '-' || c = '+' then (false, String.ofList cs)
        else (false, value)
      | [] => (false, value)
    match countedNumber? digits with
    | some count => .ok { bytes, count, without }
    | none => .error ("invalid number of " ++ what ++ ": " ++ quotedName value)
  match o.letters.reverse.find? fun l => l.1 = 'c' || l.1 = 'n' with
  | some ('c', v) => share true "bytes" v
  | some (_, v) => share false "lines" v
  | none => .ok { bytes := false, count := 10 }

/-- The parts that a share counts. -/
def Share.parts (s : Share) (bytes : ByteArray) : List (List UInt8) :=
  if s.bytes then bytes.toList.map ([·]) else byteLines bytes.toList

/-- The front of a file. -/
def Share.front (s : Share) (bytes : ByteArray) : ByteArray :=
  if s.bytes && !s.without then bytes.extract 0 s.count
  else
    let parts := s.parts bytes
    ⟨(parts.take (if s.without then parts.length - s.count else s.count)).flatten.toArray⟩

/-- The back of a file. A count of what is left out is that of the first part printed. -/
def Share.back (s : Share) (bytes : ByteArray) : ByteArray :=
  let parts := s.parts bytes
  ⟨(parts.drop (if s.without then s.count - 1 else parts.length - s.count)).flatten.toArray⟩

/-- Whether a front is all that was asked for, however much there is behind it. -/
def Share.isFull (s : Share) (front : ByteArray) : Bool :=
  !s.without && s.count ≤ (s.parts front).length &&
    (s.bytes || s.count = 0 || front.toList.getLast? = some 10)

/-- The front of an operand. If more was read of an open file than is printed, it is given back. -/
def readFront (s : Share) (path : String) : Eval (Except Fault ByteArray) := do
  let limit := if s.bytes && !s.without then some s.count else none
  let stream ← streamOf 0
  let w ← world
  let place := match stream with
    | .file i => ((w.opened[i]?).map Opened.position).getD 0
    | _ => 0
  match ← readOperand limit path with
  | .error fault => return .error fault
  | .ok bytes =>
    let front := s.front bytes
    if s.isFull front then let _ ← takeHunger
    if path = "-" then
      if let .file i := stream then
        changeWorld fun w =>
          { w with opened := w.opened.modify i ({ · with position := place + front.size }) }
    return .ok front

/-- Prints a part of each operand, with titles if there are several. -/
def printShares (name : String) (titles first : Bool)
    (part : String → Eval (Except Fault ByteArray)) : List String → Eval Nat
  | [] => return 0
  | path :: rest => do
    let shown := if path = "-" then "standard input" else path
    match ← part path with
    | .ok bytes =>
      if titles then print ((if first then "" else "\n") ++ "==> " ++ shown ++ " <==\n")
      write 1 bytes
      printShares name titles false part rest
    | .error .isDirectory =>
      if titles then print ((if first then "" else "\n") ++ "==> " ++ shown ++ " <==\n")
      complain (name ++ ": error reading " ++ quotedName shown ++ ": " ++ Fault.isDirectory.words)
      let _ ← printShares name titles false part rest
      return 1
    | .error fault =>
      complain (name ++ ": cannot open " ++ quotedName shown ++ " for reading: " ++ fault.words)
      let _ ← printShares name titles first part rest
      return 1

/-- Whether titles are shown. -/
def hasTitles (o : Options) : Bool :=
  match o.letters.reverse.find? fun l => l.1 = 'q' || l.1 = 'v' with
  | some ('q', _) => false
  | some _ => true
  | none => o.operands.length > 1

/-- The long names of the options of `head` and `tail`. -/
def shareOptions : List (String × Char) :=
  [("bytes", 'c'), ("lines", 'n'), ("quiet", 'q'), ("silent", 'q'), ("verbose", 'v'),
    ("zero-terminated", 'z')]

/-- `head` prints the first lines or bytes. -/
def head : Utility := fun args =>
  withOptions "head" "qvz" "nc" 1
    (fun o => do
      match shareOf o '-' with
      | .error message =>
        complain ("head: " ++ message)
        return 1
      | .ok share =>
        printShares "head" (hasTitles o) true (readFront share) (orInput o.operands))
    shareOptions (withLineCount ['-'] args)

/-- `tail` prints the last lines or bytes. -/
def tail : Utility := fun args =>
  withOptions "tail" "qvz" "nc" 1
    (fun o => do
      match shareOf o '+' with
      | .error message =>
        complain ("tail: " ++ message)
        return 1
      | .ok share =>
        let part (path : String) : Eval (Except Fault ByteArray) := do
          return (← readWhole path).map share.back
        printShares "tail" (hasTitles o) true part (orInput o.operands))
    shareOptions (withLineCount ['-', '+'] args)

end Assay.Shell
