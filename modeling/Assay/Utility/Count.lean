import Assay.Utility.Basic

/-!
# Counting

`wc` counts the lines, words and octets of its operands, and how wide their widest line is.
-/

namespace Assay.Shell

open Machine Host

/-- The numbers of lines, words and bytes, and the width of the widest line. -/
structure Counts where
  lines : Nat := 0
  words : Nat := 0
  bytes : Nat := 0
  width : Nat := 0

/-- What has been counted so far, whether a word has begun, and the width of the line so far. -/
structure Counting where
  counts : Counts := {}
  inWord : Bool := false
  column : Nat := 0

/-- Counts a byte. -/
def Counting.step (c : Counting) (b : UInt8) : Counting :=
  let ends := b = 10 || b = 12 || b = 13
  let column :=
    if ends then 0
    else if b = 9 then (c.column / 8 + 1) * 8
    else if 32 ≤ b && b < 127 then c.column + 1
    else c.column
  let counts := c.counts
  { counts :=
      { lines := if b = 10 then counts.lines + 1 else counts.lines
        words := if !isGap b && !c.inWord then counts.words + 1 else counts.words
        bytes := counts.bytes + 1
        width := max counts.width column }
    inWord := !isGap b
    column }

/-- The counts of bytes. -/
def countBytes (bytes : ByteArray) : Counts :=
  (bytes.foldl Counting.step {}).counts

/-- The counts of two files together. -/
def Counts.add (a b : Counts) : Counts :=
  { lines := a.lines + b.lines, words := a.words + b.words, bytes := a.bytes + b.bytes
    width := max a.width b.width }

/-- The counts that options ask for. -/
def Counts.columns (o : Options) (c : Counts) : List Nat :=
  let all := o.letters.isEmpty
  (if all || o.has 'l' then [c.lines] else []) ++ (if all || o.has 'w' then [c.words] else []) ++
    (if o.has 'm' then [c.bytes] else []) ++ (if all || o.has 'c' then [c.bytes] else []) ++
    if o.has 'L' then [c.width] else []

/-- A line of counts. -/
def countLine (o : Options) (width : Nat) (name : Option String) (c : Counts) : String :=
  " ".intercalate ((c.columns o).map fun n => padLeft width (toString n)) ++
    name.elim "" (" " ++ ·)

/-- Whether an operand is a file whose size is known beforehand. -/
def isSized (path : String) : Eval Bool := do
  let s ← get
  if path = "-" then
    match s.shell.streams.lookup 0 with
    | some (.file i) =>
      match (s.world.opened[i]?).bind fun o => s.world.root.get? o.path with
      | some (.file ..) => return true
      | _ => return false
    | _ => return false
  else
    match find s.world.root s.shell.directory true path with
    | .ok (_, .file ..) => return true
    | _ => return false

/-- Whether there is something at an operand. -/
def isThere (path : String) : Eval Bool := do
  let s ← get
  if path = "-" then return true
  else return (find s.world.root s.shell.directory true path).toOption.isSome

/-- `wc` counts lines, words and bytes. -/
def wc : Utility :=
  withOptions "wc" "lwcmL" "" 1
    (fun o => do
      let mut status := 0
      let mut found : List (Option String × Counts) := []
      let mut irregular := false
      let operands := orInput o.operands
      for path in operands do
        if !(← isSized path) && (← isThere path) then irregular := true
        match ← readWhole path with
        | .ok bytes =>
          found := (if o.operands.isEmpty then none else some path, countBytes bytes) :: found
        | .error fault =>
          unreadable "wc" path fault
          status := 1
          if fault = .isDirectory then found := (some path, {}) :: found
      let total := found.foldl (fun t (_, c) => t.add c) {}
      let single := operands.length = 1 && (total.columns o).length = 1
      let known ← isThere (operands.head?.getD "-")
      let width := if single || !known then 1
        else max (if irregular then 7 else 1) (toString total.bytes).length
      for (name, c) in found.reverse do
        printLine (countLine o width name c)
      if o.operands.length > 1 then printLine (countLine o width (some "total") total)
      return status)
    [("bytes", 'c'), ("chars", 'm'), ("lines", 'l'), ("words", 'w'), ("max-line-length", 'L')]

end Assay.Shell
