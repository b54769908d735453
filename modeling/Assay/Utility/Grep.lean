import Assay.Shell.Pattern
import Assay.Utility.Basic
import Assay.Utility.Change
import Assay.Utility.Expression.Match
import Assay.Utility.Expression.Parser

/-!
# Lines that match

`grep` prints the lines of files in which one of its patterns is found, or tells how many there are
or in which files. Lines around them are printed on demand, with marks between groups that do not
follow each other.
-/

namespace Assay.Shell

open Machine Host Expression

/-- What `grep` looks for. -/
structure Search where
  programs : List Automaton
  /-- Whether lines that do not match are looked for. -/
  inverted : Bool := false

/-- The expression of an exact text. -/
def literalForm (bs : List UInt8) : Form :=
  bs.foldr (fun b e => (Form.octet ⟨[b], false⟩).andThen e) .empty

/-- A pattern in which a letter behind a backslash stands for digits. -/
def withDigits : (fuel : Nat) → List UInt8 → List UInt8
  | 0, s => s
  | fuel + 1, 92 :: c :: rest =>
    (if c = 100 then textBytes "[0-9]" else if c = 68 then textBytes "[^0-9]" else [92, c]) ++
      withDigits fuel rest
  | fuel + 1, b :: rest => b :: withDigits fuel rest
  | _ + 1, [] => []

/-- The program of a pattern, as options say; an error is a message. -/
def searchProgramOf (o : Options) (pattern : List UInt8) : Except String Automaton :=
  let style? := (o.letters.reverse.find? fun l => "EFGP".toList.contains l.1).map Prod.fst
  let expr : Except FormFault Form :=
    if style? = some 'F' then .ok (literalForm pattern)
    else
      let extended := style? = some 'E' || style? = some 'P'
      let style : Dialect := {
        extended, lenient := true, looseBraces := extended, classesChecked := true }
      parse style (if style? = some 'P' then withDigits pattern.length pattern else pattern)
  match expr with
  | .error fault => .error fault.message
  | .ok e =>
    let e :=
      if o.has 'x' then .sequence (.anchor .lineStart) (.sequence e (.anchor .lineEnd))
      else if o.has 'w' then .sequence (.anchor .noWordBefore) (.sequence e (.anchor .noWordBehind))
      else e
    .ok (.ofForm e (o.has 'i' || o.has 'y'))

/-- Says which signs of a pattern have no meaning. -/
def warnOfPattern (o : Options) (pattern : List UInt8) : Eval Unit := do
  let style? := (o.letters.reverse.find? fun l => "EFGP".toList.contains l.1).map Prod.fst
  if style? = some 'E' then
    let style : Dialect := { extended := true, lenient := true }
    for sign in idleSigns style (pattern.length + 1) true pattern do
      complain ("grep: warning: " ++ sign ++ " at start of expression")

/-- The first match of some programs from a place on: the one that begins first, of those the
longest. -/
def firstFound (ps : List Automaton) (s : Subject) (start : Nat) : Option Found :=
  (ps.filterMap fun p => p.find s start).foldl
    (fun best f =>
      match best with
      | none => some f
      | some b =>
        if f.start < b.start || (f.start = b.start && b.stop < f.stop) then some f else some b)
    none

/-- Whether a line is looked for. -/
def Search.selects (s : Search) (line : List UInt8) : Bool :=
  let subject : Subject := { octets := ⟨line.toArray⟩ }
  (s.programs.any fun p => p.occursIn subject) != s.inverted

/-- The parts of a line that match, with their places; the fuel is the length of the line. -/
def matchedParts (ps : List Automaton) (s : Subject) :
    (fuel : Nat) → (start : Nat) → List (Nat × List UInt8)
  | 0, _ => []
  | fuel + 1, start =>
    match firstFound ps s start with
    | none => []
    | some f =>
      if f.start = f.stop then matchedParts ps s fuel (f.stop + 1)
      else
        (f.start, (s.octets.extract f.start f.stop).toList) :: matchedParts ps s fuel f.stop

/-- A line of a file. -/
structure GrepLine where
  number : Nat
  offset : Nat
  bytes : List UInt8
  selected : Bool

/-- The lines of a file up to the one that is the last to be selected. -/
def grepLines (s : Search) :
    (left : Option Nat) → (number offset : Nat) → List (List UInt8) → List GrepLine
  | _, _, _, [] => []
  | left, number, offset, line :: rest =>
    if left = some 0 then
      ⟨number, offset, line, false⟩ :: grepLines s left (number + 1) (offset + line.length + 1) rest
    else
      let selected := s.selects line
      let left := if selected then left.map (· - 1) else left
      ⟨number, offset, line, selected⟩ ::
        grepLines s left (number + 1) (offset + line.length + 1) rest

/-- How lines are printed. -/
structure GrepStyle where
  before : Nat := 0
  after : Nat := 0
  /-- Whether contexts are printed, so that groups are set apart. -/
  grouped : Bool := false
  numbers : Bool := false
  offsets : Bool := false
  parts : Bool := false
  lineEnd : UInt8 := 10
  name : Option String := none

/-- What stands in front of a line or a part of one. -/
def GrepStyle.front (g : GrepStyle) (l : GrepLine) (place : Nat) : List UInt8 :=
  let mark := if l.selected then ":" else "-"
  textBytes <|
    (match g.name with
      | some n => n ++ mark
      | none => "") ++
    (if g.numbers then toString l.number ++ mark else "") ++
    (if g.offsets then toString (l.offset + place) ++ mark else "")

/-- Prints the lines that are selected and those around them. `behind` is the number of lines that
are still to be printed behind the last one, `gap` says whether lines were left out, and `waiting`
are the last lines that were not printed, the last one first. -/
def printGrep (s : Search) (g : GrepStyle) (stop : Option Nat) :
    (behind : Nat) → (started gap : Bool) → (waiting : List GrepLine) → List GrepLine → Eval Unit
  | _, _, _, _, [] => return ()
  | behind, started, gap, waiting, l :: rest => do
    let tell (l : GrepLine) : Eval Unit :=
      if g.parts then
        if l.selected && !s.inverted then do
          let subject : Subject := { octets := ⟨l.bytes.toArray⟩ }
          for (place, part) in matchedParts s.programs subject (l.bytes.length + 1) 0 do
            printBytes (g.front l place ++ part ++ [g.lineEnd])
        else return ()
      else printBytes (g.front l 0 ++ l.bytes ++ [g.lineEnd])
    if l.selected then
      let context := (waiting.take g.before).reverse
      let left := gap || g.before < waiting.length
      if g.grouped && started && left then printLine "--"
      for c in context do tell c
      tell l
      printGrep s g stop g.after true false [] rest
    else if behind > 0 then
      tell l
      printGrep s g stop (behind - 1) started false [] rest
    else if stop.any (· < l.number) then return ()
    else
      printGrep s g stop 0 started (gap || g.before < (l :: waiting).length)
        ((l :: waiting).take (g.before + 1)) rest

/-- A number among the values of options. -/
def contextOf (o : Options) (letter : Char) : Option Nat :=
  ((o.letters.reverse.find? fun l => l.1 = letter || l.1 = 'C').bind fun l => naturalNumber? l.2)

/-- What is found in a file: whether something is, and whether it could be read. -/
def grepFile (o : Options) (s : Search) (titled : Bool) (path : String) : Eval (Bool × Bool) := do
  let stream ← streamOf 0
  let w ← world
  let place := match stream with
    | .file i => ((w.opened[i]?).map Opened.position).getD 0
    | _ => 0
  match ← readOperand none path with
  | .error fault =>
    if !o.has 's' then unreadable "grep" path fault
    return (false, false)
  | .ok bytes =>
    let shown := if path = "-" then (o.value? 'N').getD "(standard input)" else path
    let most := (o.value? 'm').bind naturalNumber?
    let most := if o.has 'q' || o.has 'l' || o.has 'L' then some (min 1 (most.getD 1)) else most
    let lineEnd : UInt8 := if o.has 'z' then 0 else 10
    let lines := grepLines s most 1 0 (linesEndedBy lineEnd bytes.toList)
    let selected := lines.filter GrepLine.selected
    let last := if most.any (· ≤ selected.length) then
      some ((selected.getLast?.map GrepLine.number).getD 0) else none
    -- Who has found enough does not read on.
    if last.isSome then
      let _ ← takeHunger
      if path = "-" then
        if let .file i := stream then
          let front := (lines.take (last.getD 0)).foldl (fun n l => n + l.bytes.length + 1) 0
          changeWorld fun w =>
            { w with opened := w.opened.modify i ({ · with position := place + front }) }
    else refuseHunger
    let finish := if o.has 'Z' then "\x00" else "\n"
    if o.has 'q' then pure ()
    else if o.has 'L' then
      if selected.isEmpty then print (shown ++ finish)
    else if o.has 'l' then
      if !selected.isEmpty then print (shown ++ finish)
    else if o.has 'c' then
      printLine ((if titled then shown ++ ":" else "") ++ toString selected.length)
    else if bytes.toList.contains 0 && !o.has 'a' && !o.has 'z' && !selected.isEmpty then
      complain ("grep: " ++ shown ++ ": binary file matches")
    else
      let after := contextOf o 'A'
      let before := contextOf o 'B'
      let style : GrepStyle := {
        before := if o.has 'o' then 0 else before.getD 0
        after := if o.has 'o' then 0 else after.getD 0
        grouped := (before.isSome || after.isSome) && !o.has 'X'
        numbers := o.has 'n', offsets := o.has 'b', parts := o.has 'o', lineEnd
        name := if titled then some shown else none }
      printGrep s style last 0 false false [] lines
    return (!selected.isEmpty, true)

mutual

/-- The files below a part of the tree, by their paths. -/
def filesIn (path : String) : Tree → List String
  | .dir _ es => filesInEntries path es
  | .file .. => [path]
  | _ => []

/-- The files below the entries of a directory. -/
def filesInEntries (path : String) : List (String × Tree) → List String
  | [] => []
  | (name, t) :: rest =>
    filesIn (if path.isEmpty then name else childPath path name) t ++ filesInEntries path rest

end

/-- Whether files of a name are looked through, as options say. -/
def grepIncludes (o : Options) (path : String) : Bool :=
  let name := String.ofList (path.toList.reverse.takeWhile (· ≠ '/')).reverse
  let fits (p : String) : Bool := matchesText (pattern (glyphs false p.toList)) name
  let included := o.letters.filter (·.1 = 'I')
  (included.isEmpty || included.any fun l => fits l.2) &&
    !(o.letters.any fun l => l.1 = 'J' && fits l.2)

/-- The files that an operand stands for. -/
def grepOperand (o : Options) (recursive : Bool) (path : String) : Eval (List String) := do
  if path = "-" then return [path]
  match ← partOf true (if path.isEmpty then "." else path) with
  | .ok (_, .dir m es) =>
    if recursive || o.value? 'd' = some "recurse" then
      return (filesIn path (.dir m es)).filter (grepIncludes o)
    else return if o.value? 'd' = some "skip" then [] else [path]
  | _ => return if grepIncludes o path then [path] else []

/-- Says that `grep` was not called as it should be. -/
def misusedGrep (message : Option String) : Eval Nat := do
  if let some m := message then complain ("grep: " ++ m)
  complain "Usage: grep [OPTION]... PATTERNS [FILE]..."
  complain "Try 'grep --help' for more information."
  return 2

/-- The long names of the options of `grep`. -/
def grepOptions : List (String × Char) :=
  [("extended-regexp", 'E'), ("fixed-strings", 'F'), ("basic-regexp", 'G'), ("regexp", 'e'),
    ("file", 'f'), ("ignore-case", 'i'), ("word-regexp", 'w'), ("line-regexp", 'x'),
    ("no-messages", 's'), ("invert-match", 'v'), ("max-count", 'm'), ("byte-offset", 'b'),
    ("line-number", 'n'), ("with-filename", 'H'), ("no-filename", 'h'), ("only-matching", 'o'),
    ("quiet", 'q'), ("silent", 'q'), ("text", 'a'), ("recursive", 'r'),
    ("dereference-recursive", 'R'), ("files-without-match", 'L'), ("files-with-matches", 'l'),
    ("count", 'c'), ("null", 'Z'), ("before-context", 'B'), ("after-context", 'A'),
    ("context", 'C'), ("no-group-separator", 'X'), ("color", 'K'), ("colour", 'K'),
    ("label", 'N'), ("include", 'I'), ("exclude", 'J'), ("directories", 'd'), ("devices", 'D'),
    ("null-data", 'z'), ("initial-tab", 'T'), ("line-buffered", 'u'), ("binary", 'U')]

/-- Arguments in which a number behind a line stands for a number of lines around. -/
def withContext (args : List String) : List String :=
  args.map fun a =>
    match a.toList with
    | '-' :: d :: ds => if (d :: ds).all Char.isDigit then "-C" ++ String.ofList (d :: ds) else a
    | _ => a

/-- The patterns of `grep`: those of its options, or its first operand. -/
def grepPatterns (o : Options) : Eval (Except String (List (List UInt8) × List String)) := do
  let mut patterns : List (List UInt8) := []
  for (letter, value) in o.letters do
    if letter = 'e' then
      let lines := Text.splitAt '\n' value.toList
      patterns := patterns ++ lines.map fun l => textBytes (String.ofList l)
    if letter = 'f' then
      match ← readWhole value with
      | .ok bytes => patterns := patterns ++ bareLines bytes.toList
      | .error fault => return .error (value ++ ": " ++ fault.words)
  if o.has 'e' || o.has 'f' then return .ok (patterns, o.operands)
  else match o.operands with
    | p :: rest =>
      return .ok ((Text.splitAt '\n' p.toList).map fun l => textBytes (String.ofList l), rest)
    | [] => return .error ""

/-- `grep` prints the lines that match. -/
def grepWith (implied : List (Char × String)) : Utility := fun args => do
  match readOptions "EFGPivwxcLlqsnHhobrRazZyUTuXK" "efmABCNIJdDK" grepOptions
      (withContext args) with
  | .error message => misusedGrep (some message)
  | .ok o =>
    let o := { o with letters := implied ++ o.letters }
    match ← grepPatterns o with
    | .error message =>
      if message.isEmpty then misusedGrep none
      else
        complain ("grep: " ++ message)
        return 2
    | .ok (patterns, operands) =>
      match (o.value? 'm').filter fun v => (naturalNumber? v).isNone with
      | some _ =>
        complain "grep: invalid max count"
        return 2
      | none =>
        match patterns.mapM (searchProgramOf o) with
        | .error message =>
          complain ("grep: " ++ message)
          return 2
        | .ok programs =>
          for p in patterns do warnOfPattern o p
          let search : Search := { programs, inverted := o.has 'v' }
          let recursive := o.has 'r' || o.has 'R'
          let operands := if operands.isEmpty then [if recursive then "" else "-"] else operands
          let files ← operands.mapM (grepOperand o recursive)
          let titled := !o.has 'h' && (o.has 'H' || operands.length > 1 || recursive)
          let mut found := false
          let mut read := true
          for path in files.flatten do
            if !(o.has 'q' && found) then
              let (f, r) ← grepFile o search titled path
              found := found || f
              read := read && r
          return if found && (read || o.has 'q') then 0 else if !read then 2 else 1

/-- `grep`. -/
def grep : Utility :=
  grepWith []

end Assay.Shell
