import Assay.Utility.Change
import Assay.Utility.Compare.Script
import Assay.Utility.Dump
import Assay.Utility.Name

/-!
# Comparing files

`cmp` tells the first octet in which two files differ, or all of them. `diff` tells the lines that
make one file of another, or for directories which of their files differ.
-/

namespace Assay.Shell

open Machine Host Compare

/-! ## Octet by octet -/

/-- An octet with the signs that show it if it is not printed. -/
def shownOctet (b : UInt8) : String :=
  let low (n : Nat) : String :=
    if n < 32 then "^" ++ String.singleton (Char.ofNat (n + 64))
    else if n = 127 then "^?" else String.singleton (Char.ofNat n)
  if b < 128 then low b.toNat else "M-" ++ low (b.toNat - 128)

/-- An octet as an octal number without zeros in front. -/
def octalOf (b : UInt8) : String :=
  String.ofList (Nat.toDigits 8 b.toNat)

/-- The octets in which two lists differ, with their places. -/
def differences : (place : Nat) → List UInt8 → List UInt8 → List (Nat × UInt8 × UInt8)
  | place, a :: as, b :: bs =>
    if a = b then differences (place + 1) as bs else (place, a, b) :: differences (place + 1) as bs
  | _, _, _ => []

/-- Says that a file ends in front of the other one. -/
def reportEnd (o : Options) (path : String) (bytes : List UInt8) : Eval Unit := do
  let lines := (bytes.filter (· = 10)).length
  complain ("cmp: EOF on " ++ path ++
    if bytes.isEmpty then " which is empty"
    else " after byte " ++ toString bytes.length ++
      if o.has 'l' then ""
      else if bytes.getLast? = some 10 then ", line " ++ toString lines
      else ", in line " ++ toString (lines + 1))

/-- Compares the octets of two files. -/
def compareOctetsOf (o : Options) (a b : String) (left right : List UInt8) : Eval Nat := do
  let found := differences 1 left right
  let shorter := if left.length < right.length then some (a, left)
    else if right.length < left.length then some (b, right) else none
  if o.has 's' then return if found.isEmpty && shorter.isNone then 0 else 1
  let names (x y : UInt8) : String × String := (shownOctet x, shownOctet y)
  if o.has 'l' then
    let width := (toString (max left.length right.length)).length
    for (place, x, y) in found do
      let (p, q) := names x y
      printLine (padLeft width (toString place) ++ " " ++ padLeft 3 (octalOf x) ++ " " ++
        if o.has 'b' then padRight 4 p ++ " " ++ padLeft 3 (octalOf y) ++ " " ++ q
        else padLeft 3 (octalOf y))
  else if let (place, x, y) :: _ := found then
    let line := toString ((left.take (place - 1)).filter (· = 10)).length.succ
    let (p, q) := names x y
    printLine (a ++ " " ++ b ++ " differ: " ++ (if o.has 'b' then "byte " else "char ") ++
      toString place ++ ", line " ++ line ++
      if o.has 'b' then " is " ++ padLeft 3 (octalOf x) ++ " " ++ p ++ " " ++
        padLeft 3 (octalOf y) ++ " " ++ q
      else "")
    return 1
  if let some (path, bytes) := shorter then
    reportEnd o path bytes
    return 1
  return if found.isEmpty then 0 else 1

/-- Says that a utility that compares was not called as it should be. -/
def misusedComparison (name message : String) : Eval Nat := do
  complain (name ++ ": " ++ message)
  complain (name ++ ": Try '" ++ name ++ " --help' for more information.")
  return 2

/-- `cmp` compares two files octet by octet. -/
def cmp : Utility := fun args => do
  match readOptions "bls" "ni" [("print-bytes", 'b'), ("verbose", 'l'), ("quiet", 's'),
      ("silent", 's'), ("bytes", 'n'), ("ignore-initial", 'i')] args with
  | .error message => misusedComparison "cmp" message
  | .ok o =>
    match o.operands with
    | [] => misusedComparison "cmp" "missing operand after 'cmp'"
    | a :: rest =>
      let b := rest.headD "-"
      let number (s : String) : Nat := (octetCount? s).getD 0
      let skips := (Text.splitAt ':' ((o.value? 'i').getD "0").toList).map String.ofList
      let skipped := [skips.headD "0", (skips[1]?).getD (skips.headD "0")].map number
      let firsts := (rest.drop 1).map number
      let limit := (o.value? 'n').map number
      let mut contents : List (List UInt8) := []
      for (path, i) in [a, b].zipIdx do
        match ← readOperand none path with
        | .error fault =>
          if !(o.has 's' && fault = .missing) then
            complain ("cmp: " ++ path ++ ": " ++ fault.words)
          throw (Stop.exit 2)
        | .ok bytes =>
          let start := (firsts[i]?).getD ((skipped[i]?).getD 0)
          let bytes := bytes.toList.drop start
          contents := contents ++ [limit.elim bytes bytes.take]
      compareOctetsOf o a b (contents.headD []) ((contents[1]?).getD [])

/-! ## Line by line -/

/-- A line as it counts when blanks or the case of letters do not matter. -/
def countedLine (o : Options) (line : List UInt8) : List UInt8 :=
  let line := if o.has 'i' then line.map capitalOctet else line
  let ended := line.getLast? = some 10
  let body := if ended then line.dropLast else line
  let isBlank (b : UInt8) : Bool := isGap b
  let trimmed := (body.reverse.dropWhile isBlank).reverse
  if o.has 'w' then body.filter (!isBlank ·)
  else if o.has 'b' then
    (trimmed.foldl
      (fun (done : List UInt8) b =>
        if !isBlank b then b :: done else if done.head? = some 32 then done else 32 :: done)
      []).reverse
  else if o.has 'Z' then trimmed
  else line
where
  /-- An octet as a capital letter. -/
  capitalOctet (b : UInt8) : UInt8 :=
    if 97 ≤ b && b ≤ 122 then b - 32 else b

/-- Numbers for lines, equal ones for lines that count as the same. -/
def lineNumbers (lines : List (List UInt8)) (seen : Std.HashMap (List UInt8) Nat) :
    List Nat × Std.HashMap (List UInt8) Nat :=
  let (numbers, seen) := lines.foldl
    (fun (numbers, (seen : Std.HashMap (List UInt8) Nat)) line =>
      match seen[line]? with
      | some n => (n :: numbers, seen)
      | none => (seen.size :: numbers, seen.insert line seen.size))
    ([], seen)
  (numbers.reverse, seen)

/-- The lines that a hunk is about, behind a mark. -/
def markedLines (mark : String) (lines : List (List UInt8)) : List UInt8 :=
  lines.flatMap fun l =>
    textBytes mark ++ l ++
      if l.getLast? = some 10 then [] else textBytes "\n\\ No newline at end of file\n"

/-- Lines from one place to another one. -/
def linesBetween (first stop : Nat) (lines : Array (List UInt8)) : List (List UInt8) :=
  (lines.extract first stop).toList

/-- The lines of a hunk, told by commands. -/
def plainHunk (left right : Array (List UInt8)) (h : Hunk) : List UInt8 :=
  let span (first stop : Nat) : String :=
    if stop ≤ first + 1 then toString stop else toString (first + 1) ++ "," ++ toString stop
  let letter := if h.left = h.leftEnd then "a" else if h.right = h.rightEnd then "d" else "c"
  textBytes (span h.left h.leftEnd ++ letter ++ span h.right h.rightEnd ++ "\n") ++
    markedLines "< " (linesBetween h.left h.leftEnd left) ++
    (if letter = "c" then textBytes "---\n" else []) ++
    markedLines "> " (linesBetween h.right h.rightEnd right)

/-- Hunks in groups of those that are near to each other. -/
def nearHunks (around : Nat) : List Hunk → List (List Hunk)
  | [] => []
  | h :: rest =>
    match nearHunks around rest with
    | (next :: group) :: groups =>
      if next.left - h.leftEnd ≤ 2 * around then (h :: next :: group) :: groups
      else [h] :: (next :: group) :: groups
    | groups => [h] :: groups

/-- The lines of hunks that are near to each other, with those around them. -/
def unifiedHunk (around : Nat) (left right : Array (List UInt8)) (hs : List Hunk) :
    List UInt8 :=
  match hs.head?, hs.getLast? with
  | some first, some last =>
    let start := first.left - around
    let startRight := first.right - around
    let stop := min left.size (last.leftEnd + around)
    let stopRight := min right.size (last.rightEnd + around)
    let span (first stop : Nat) : String :=
      if stop = first + 1 then toString stop
      else if stop = first then toString first ++ ",0"
      else toString (first + 1) ++ "," ++ toString (stop - first)
    let (body, place) := hs.foldl
      (fun (done, place) h =>
        (done ++ markedLines " " (linesBetween place h.left left) ++
          markedLines "-" (linesBetween h.left h.leftEnd left) ++
          markedLines "+" (linesBetween h.right h.rightEnd right), h.leftEnd))
      (([] : List UInt8), start)
    textBytes ("@@ -" ++ span start stop ++ " +" ++ span startRight stopRight ++ " @@\n") ++ body ++
      markedLines " " (linesBetween place stop left)
  | _, _ => []

/-- Whether octets are no text. -/
def isBinary (bytes : List UInt8) : Bool :=
  (bytes.take 4096).contains 0

/-- How many lines are shown around a hunk, if any are. -/
def linesAround? (o : Options) : Option Nat :=
  match o.value? 'U' with
  | some v => some ((naturalNumber? v).getD 3)
  | none => if o.has 'u' then some 3 else none

/-- The date of a file in front of its lines. -/
def longFileDate : String :=
  "2024-01-01 00:00:00.000000000 +0000"

/-- Compares the lines of two files; `title` is printed in front if they differ. -/
def compareLines (o : Options) (title a b : String) (left right : List UInt8) : Eval Nat := do
  let identical : Eval Nat := do
    if o.has 's' then printLine ("Files " ++ a ++ " and " ++ b ++ " are identical")
    return 0
  if left = right then identical
  else if (isBinary left || isBinary right) && !o.has 'a' then
    printLine (if o.has 'q' then "Files " ++ a ++ " and " ++ b ++ " differ"
      else "Binary files " ++ a ++ " and " ++ b ++ " differ")
    return 1
  else
    let lines := (byteLines left).toArray
    let others := (byteLines right).toArray
    let (numbers, seen) := lineNumbers (lines.toList.map (countedLine o)) {}
    let (numbers', _) := lineNumbers (others.toList.map (countedLine o)) seen
    let around := linesAround? o
    let found := hunks (around.getD 0) numbers numbers'
    let isBlank (l : List UInt8) : Bool := l = [10]
    let counts (h : Hunk) : Bool := !o.has 'B' ||
      !((linesBetween h.left h.leftEnd lines).all isBlank &&
        (linesBetween h.right h.rightEnd others).all isBlank)
    let found := if found.any counts then (if around.isSome then found else found.filter counts)
      else []
    if found.isEmpty then identical
    else if o.has 'q' then
      printLine ("Files " ++ a ++ " and " ++ b ++ " differ")
      return 1
    else
      if !title.isEmpty then printLine title
      match around with
      | none => printBytes (found.flatMap (plainHunk lines others))
      | some around =>
        let labels := (o.letters.filter (·.1 = 'L')).map Prod.snd
        let header (mark path : String) (i : Nat) : String :=
          mark ++ " " ++ (labels[i]?).getD (path ++ "\t" ++ longFileDate)
        printLine (header "---" a 0)
        printLine (header "+++" b 1)
        printBytes ((nearHunks around found).flatMap (unifiedHunk around lines others))
      return 1

/-- Compares two files by their paths. -/
def compareFiles (o : Options) (title a b : String) : Eval Nat := do
  let contents (path : String) : Eval (Option (List UInt8)) := do
    match ← readOperand none path with
    | .ok bytes => return some bytes.toList
    | .error .missing => if o.has 'N' then return some [] else failed path .missing
    | .error fault => failed path fault
  let left ← contents a
  let right ← contents b
  match left, right with
  | some left, some right => compareLines o title a b left right
  | _, _ => return 2
where
  /-- Reports a file that cannot be read. -/
  failed (path : String) (fault : Fault) : Eval (Option (List UInt8)) := do
    complain ("diff: " ++ path ++ ": " ++ fault.words)
    return none

/-- Compares what is in two directories, down to some depth. -/
def compareDirectories (o : Options) (title : String) : (depth : Nat) → (a b : String) → Eval Nat
  | 0, _, _ => return 0
  | depth + 1, a, b => do
    let s ← get
    let names (path : String) : List String :=
      match Machine.list s.world.root s.shell.directory path with
      | .ok names => names
      | .error _ => []
    let lefts := names a
    let rights := names b
    let all := (lefts ++ rights.filter (!lefts.contains ·)).mergeSort fun x y => x ≤ y
    let all := all.filter fun n => !(o.letters.any fun l => l.1 = 'x' && l.2 = n)
    let mut status := 0
    for name in all do
      let (x, y) := (childPath a name, childPath b name)
      let inLeft := lefts.contains name
      let inRight := rights.contains name
      if inLeft && inRight || o.has 'N' then
        let (leftDir, rightDir) := (← isDirectory x, ← isDirectory y)
        let result ←
          if leftDir && rightDir || o.has 'N' && (leftDir && !inRight || rightDir && !inLeft) then
            if o.has 'r' then compareDirectories o title depth x y
            else do
              printLine ("Common subdirectories: " ++ x ++ " and " ++ y)
              pure 0
          else if leftDir || rightDir then do
            let kind (dir : Bool) : String := if dir then "directory" else "regular file"
            printLine ("File " ++ x ++ " is a " ++ kind leftDir ++ " while file " ++ y ++
              " is a " ++ kind rightDir)
            pure 1
          else compareFiles o (title ++ " " ++ shownName x ++ " " ++ shownName y) x y
        status := max status result
      else
        printLine ("Only in " ++ (if inLeft then a else b) ++ ": " ++ name)
        status := max status 1
    return status

/-- How deep directories are compared. -/
def maxComparison : Nat := 1000

/-- The path of a file in a directory, if the other operand is a file. -/
def besideFile (path other : String) : Eval String := do
  if (← isDirectory path) && !(← isDirectory other) && other ≠ "-" then
    return childPath path (lastName other)
  else return path

/-- `diff` compares two files line by line, or what is in two directories. -/
def diff : Utility := fun args => do
  let withCount (a : String) : String :=
    if a.startsWith "--unified=" then "-U" ++ String.ofList (a.toList.drop 10)
    else if a.startsWith "-u" && (naturalNumber? (String.ofList (a.toList.drop 2))).isSome then
      "-U" ++ String.ofList (a.toList.drop 2)
    else a
  let args := args.map withCount
  match readOptions "qsuibwBZaNrdtT" "UxL" [("brief", 'q'), ("report-identical-files", 's'),
      ("unified", 'u'), ("ignore-case", 'i'), ("ignore-space-change", 'b'),
      ("ignore-all-space", 'w'), ("ignore-blank-lines", 'B'), ("ignore-trailing-space", 'Z'),
      ("text", 'a'), ("new-file", 'N'), ("recursive", 'r'), ("minimal", 'd'), ("exclude", 'x'),
      ("label", 'L'), ("normal", 'n'), ("strip-trailing-cr", 't'), ("expand-tabs", 't')] args with
  | .error message => misusedComparison "diff" message
  | .ok o =>
    match o.operands with
    | [] => misusedComparison "diff" "missing operand after 'diff'"
    | [a] => misusedComparison "diff" ("missing operand after " ++ quotedName a)
    | _ :: _ :: extra :: _ =>
      misusedComparison "diff" ("extra operand " ++ quotedName extra)
    | [a, b] =>
      let title := " ".intercalate
        ("diff" :: (args.filter fun x => !o.operands.contains x).map shownName)
      let missing ← [a, b].filterM fun p => do
        return p ≠ "-" && (← partOf true p).toOption.isNone
      for path in if o.has 'N' then [] else missing do
        complain ("diff: " ++ path ++ ": " ++ Fault.missing.words)
      if !missing.isEmpty && !o.has 'N' then return 2
      if (← isDirectory a) && (← isDirectory b) then compareDirectories o title maxComparison a b
      else
        let x ← besideFile a b
        let y ← besideFile b a
        compareFiles o "" x y

end Assay.Shell
