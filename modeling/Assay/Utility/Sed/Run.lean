import Assay.Utility.Change
import Assay.Utility.Expression.Match
import Assay.Utility.Sed.Syntax

/-!
# Running scripts of `sed`

Each line of the input is put into the pattern space, the commands of the script are carried out on
it, and what is left is printed. Texts and files that are to follow a line are put out when it is
done with.
-/

namespace Assay.Sed

open Machine Host Expression Shell

/-- A line of the input, and whether a line break ends it. -/
structure InputLine where
  bytes : List UInt8
  ended : Bool

/-- What follows a line. -/
inductive Queued where
  | text (bs : List UInt8)
  | file (path : String)

/-- Whether a range of lines has begun, and where it ends if that is known. -/
inductive RangeState where
  | outside
  | inside (stop : Option Nat)

/-- How input is edited. -/
structure Editing where
  quiet : Bool := false
  /-- Whether each file has a beginning and an end of its own. -/
  separate : Bool := false
  /-- Whether files are replaced by what is printed for them, and the ending of the names of copies
  that are kept. -/
  inPlace : Option String := none
  /-- The octet that ends lines. -/
  lineEnd : UInt8 := 10
  lineWidth : Nat := 70

/-- The state between two commands. -/
structure EditState where
  space : List UInt8 := []
  ended : Bool := true
  hold : List UInt8 := []
  number : Nat := 0
  lines : List InputLine := []
  /-- The files that have not been opened. -/
  files : List String
  file : String := "-"
  queue : List Queued := []
  replaced : Bool := false
  ranges : Array RangeState
  last : Option Automaton := none
  /-- Whether a line break is missing behind what was printed last. -/
  unended : Bool := false
  status : Nat := 0
  /-- What is printed for the file that is replaced. -/
  output : Option (List (List UInt8)) := none
  /-- What is left of the files that are read line by line. -/
  sources : List (String × List InputLine) := []
  targets : List (String × Target) := []

/-- What edits. -/
abbrev Edit := StateT EditState Eval

/-- The lines of a file, ended by an octet. -/
def inputLines (lineEnd : UInt8) (bytes : ByteArray) : List InputLine :=
  bytes.toList.foldr
    (fun b lines =>
      if b = lineEnd then ⟨[], true⟩ :: lines
      else match lines with
        | l :: rest => { l with bytes := b :: l.bytes } :: rest
        | [] => [⟨[b], false⟩])
    []

/-! ## Output -/

/-- Puts octets out. -/
def emit (bs : List UInt8) : Edit Unit := do
  match (← get).output with
  | some parts => modify fun s => { s with output := some (bs :: parts) }
  | none => printBytes bs

/-- Puts out the line break that is missing. -/
def completeLine (e : Editing) : Edit Unit := do
  if (← get).unended then
    emit [e.lineEnd]
    modify fun s => { s with unended := false }

/-- Puts a line out. -/
def emitLine (e : Editing) (bs : List UInt8) (ended : Bool) : Edit Unit := do
  completeLine e
  emit (if ended then bs ++ [e.lineEnd] else bs)
  if !ended then modify fun s => { s with unended := true }

/-- Puts a text out that follows a line. -/
def emitText (e : Editing) (bs : List UInt8) : Edit Unit := do
  completeLine e
  emit bs

/-- Adds octets to a file that is written. -/
def writeTo (e : Editing) (path : String) (bs : List UInt8) : Edit Unit := do
  if path = "/dev/stdout" then
    completeLine e
    emit bs
  else match (← get).targets.lookup path with
    | some t =>
      let _ ← writeToTarget t ⟨bs.toArray⟩
    | none => pure ()

/-- Puts out what follows the line. -/
def flushQueue (e : Editing) : Edit Unit := do
  let queue := (← get).queue
  modify fun s => { s with queue := [] }
  for q in queue do
    match q with
    | .text bs => emitText e bs
    | .file path =>
      match ← readOperand none (if path = "/dev/stdin" then "-" else path) with
      | .ok bytes => if bytes.size > 0 then emitText e bytes.toList
      | .error .isDirectory =>
        complain ("sed: read error on " ++ path ++ ": " ++ Fault.isDirectory.words)
        throw (Stop.exit 4)
      | .error _ => pure ()

/-! ## Input -/

/-- Replaces the file that is edited by what was printed for it. -/
def finishFile (e : Editing) : Edit Unit := do
  match e.inPlace, (← get).output with
  | some ending, some parts =>
    let path := (← get).file
    let bytes : ByteArray := ⟨parts.reverse.flatten.toArray⟩
    if !ending.isEmpty then
      let copy :=
        if ending.toList.contains '*' then ending.replace "*" path else path ++ ending
      if let .ok old ← readOperand none path then
        let _ ← writeFile copy old
    let _ ← writeFile path bytes
    modify fun s => { s with output := none, unended := false }
  | _, _ => pure ()

/-- Opens the next file; whether there is one. A directory ends everything, unless it is only
looked whether there is more. -/
def openNext (e : Editing) (looking : Bool) : Edit Bool := do
  match (← get).files with
  | [] => return false
  | path :: rest =>
    finishFile e
    modify fun s => { s with files := rest }
    let fail (message : String) : Edit Unit := do
      complain ("sed: " ++ message)
      modify fun s => { s with status := 2 }
    match ← partOf true path, e.inPlace with
    | .ok (_, .dir ..), some _ =>
      fail ("couldn't edit " ++ path ++ ": not a regular file")
      modify fun s => { s with status := 4 }
    | _, _ =>
      match ← readOperand none path with
      | .ok bytes =>
        modify fun s =>
          { s with
            lines := inputLines e.lineEnd bytes, file := path
            number := if e.separate then 0 else s.number
            output := if e.inPlace.isSome then some [] else none }
      | .error .isDirectory =>
        if !looking then
          complain ("sed: read error on " ++ path ++ ": " ++ Fault.isDirectory.words)
          throw (Stop.exit 4)
      | .error fault => fail ("can't read " ++ path ++ ": " ++ fault.words)
    return true

/-- Opens files until there is a line; whether there is one. -/
def findLine (e : Editing) (looking : Bool) : (fuel : Nat) → Edit Bool
  | 0 => return false
  | fuel + 1 => do
    if !(← get).lines.isEmpty then return true
    else if ← openNext e looking then findLine e looking fuel
    else return false

/-- Whether the line is the last one. -/
def isLast (e : Editing) : Edit Bool := do
  let s ← get
  if !s.lines.isEmpty then return false
  else if e.separate then return true
  else return !(← findLine e true (s.files.length + 1))

/-- Reads the next line; none at the end. -/
def nextLine (e : Editing) : Edit (Option InputLine) := do
  let s ← get
  if !(← findLine e false (s.files.length + 1)) then return none
  match (← get).lines with
  | [] => return none
  | l :: rest =>
    modify fun s => { s with lines := rest, number := s.number + 1 }
    return some l

/-! ## Addresses -/

/-- The subject of the pattern space. -/
def subject (bs : List UInt8) (lines : Bool) : Subject :=
  { octets := ⟨bs.toArray⟩, lines }

/-- The automaton that is meant, which is then the last one. -/
def meant (a : Option Automaton) : Edit (Option Automaton) := do
  match a with
  | some a =>
    modify fun s => { s with last := some a }
    return some a
  | none => return (← get).last

/-- Stops at an expression that is missing. -/
def noExpression {α : Type} : Edit α := do
  complain "sed: -e expression #1, char 0: no previous regular expression"
  throw (Stop.exit 1)

/-- Whether the line is meant by an address. -/
def isMeant (e : Editing) (a : Address) : Edit Bool := do
  let s ← get
  match a with
  | .line n => return s.number = n
  | .last => isLast e
  | .zero => return false
  | .every first step =>
    return if step = 0 then s.number = first
      else first ≤ s.number && (s.number - first) % step = 0
  | .found a =>
    match ← meant a with
    | some a => return a.occursIn (subject s.space false)
    | none => noExpression

/-- Whether the range of a command goes on, in which the line is. -/
def goesOn (e : Editing) (stop : RangeEnd) (known : Option Nat) : Edit Bool := do
  let s ← get
  match stop, known with
  | _, some n => return s.number < n
  | .address (.line n), none => return s.number < n
  | .address a, none => return !(← isMeant e a)
  | _, none => return false

/-- Whether a command is carried out for the line. -/
def selects (e : Editing) (place : Nat) (c : Selector) : Edit Bool := do
  let chosen ← match c.start, c.stop with
    | none, _ => pure true
    | some a, none => isMeant e a
    | some a, some stop => do
      let state := ((← get).ranges[place]?).getD .outside
      let set (r : RangeState) : Edit Unit :=
        modify fun s => { s with ranges := s.ranges.setIfInBounds place r }
      let begun := a matches .zero
      match state with
      | .inside known => do
        let n := (← get).number
        let past : Bool := match stop, known with
          | .address (.line m), none => decide (m < n)
          | _, some m => decide (m < n)
          | _, none => false
        if past then
          -- The range ended before this line.
          set .outside
          let again ← isMeant e a
          pure (again && !begun)
        else do
          if !(← goesOn e stop known) then set .outside
          pure true
      | .outside => do
        if !(← isMeant e a) then pure false
        else do
          let n := (← get).number
          match stop with
          | .address (.line m) => if n < m then set (.inside none)
          | .address _ => set (.inside none)
          | .behind m => if m > 0 then set (.inside (some (n + m)))
          | .multiple m =>
            if m > 0 then set (.inside (some ((n / m + 1) * m)))
          pure true
  return chosen != c.inverted

/-! ## Replacing -/

/-- Octets with their letters changed; a change of the next letter only is over then. -/
def cased (always : Casing) (once : Option Casing) (bs : List UInt8) :
    List UInt8 × Option Casing :=
  let bs := match always with
    | .upper => bs.map capital
    | .lower => bs.map small
    | _ => bs
  match once, bs with
  | some .upperNext, b :: rest => (capital b :: rest, none)
  | some .lowerNext, b :: rest => (small b :: rest, none)
  | once, bs => (bs, once)

/-- What is put in the place of a match. -/
def replacement (s : List UInt8) (f : Found) :
    List ReplacementPart → (always : Casing) → (once : Option Casing) → List UInt8
  | [], _, _ => []
  | .casing .keep :: rest, _, _ => replacement s f rest .keep none
  | .casing c :: rest, always, once =>
    if c = .upper || c = .lower then replacement s f rest c once
    else replacement s f rest always (some c)
  | .text bs :: rest, always, once =>
    let (bs, once) := cased always once bs
    bs ++ replacement s f rest always once
  | .group n :: rest, always, once =>
    let bounds := if n = 0 then some (f.start, f.stop) else (f.groups[n - 1]?).join
    let part := match bounds with
      | some (a, b) => (s.drop a).take (b - a)
      | none => []
    let (bs, once) := cased always once part
    bs ++ replacement s f rest always once

/-- Replaces matches from a place on: the octets from there, and whether something was replaced.
`count` is the number of the next match, and `after` the end of the one in front. -/
def replaceFrom (sub : Substitution) (a : Automaton) (s : List UInt8) (view : Subject) :
    (fuel : Nat) → (count : Nat) → (place : Nat) → (after : Option Nat) → List UInt8 × Bool
  | 0, _, place, _ => (s.drop place, false)
  | fuel + 1, count, place, after =>
    match a.find view place with
    | none => (s.drop place, false)
    | some f =>
      if f.start = f.stop && after = some f.start then
        -- No empty match right behind another one.
        match s.drop f.start with
        | [] => (s.drop place, false)
        | b :: _ =>
          let front := (s.drop place).take (f.start - place)
          let (rest, done) := replaceFrom sub a s view fuel count (f.start + 1) none
          (front ++ b :: rest, done)
      else
        let front := (s.drop place).take (f.start - place)
        let chosen := count = sub.count || (sub.everywhere && sub.count < count)
        let here := if chosen then replacement s f sub.parts .keep none
          else (s.drop f.start).take (f.stop - f.start)
        if chosen && !sub.everywhere then (front ++ here ++ s.drop f.stop, true)
        else if f.stop < s.length || f.start < f.stop then
          let step := if f.start = f.stop then (s.drop f.stop).take 1 else []
          let after := if f.start = f.stop then none else some f.stop
          let (rest, done) :=
            replaceFrom sub a s view fuel (count + 1) (f.stop + step.length) after
          (front ++ here ++ step ++ rest, chosen || done)
        else (front ++ here ++ s.drop f.stop, chosen)

/-- An octet as `l` shows it. -/
def shownByte (b : UInt8) : List UInt8 :=
  match b.toNat with
  | 92 => [92, 92]
  | 7 => [92, 97]
  | 8 => [92, 98]
  | 12 => [92, 102]
  | 10 => [92, 110]
  | 13 => [92, 114]
  | 9 => [92, 116]
  | 11 => [92, 118]
  | n =>
    if 32 ≤ n && n < 127 then [b]
    else 92 :: [n / 64, n / 8 % 8, n % 8].map fun d => UInt8.ofNat (48 + d)

/-- The lines of shown octets, of a width at most if there is one. -/
def wrapped (width : Nat) : (line : List UInt8) → List (List UInt8) → List UInt8
  | line, [] => line ++ [36, 10]
  | line, part :: rest =>
    if width > 0 && line.length + part.length > width - 1 then
      line ++ [92, 10] ++ wrapped width part rest
    else wrapped width (line ++ part) rest

/-! ## Commands -/

/-- Where a script goes on. -/
inductive Next where
  | goOn
  | jump (place : Nat)
  /-- Ends the cycle; `printed` says whether the pattern space is printed, and `kept` whether it is
  used again. -/
  | endCycle (printed kept : Bool)
  | quit (printed : Bool) (status : Nat)

/-- Ends the line that is done with, and puts the next one in its place. -/
def advanceLine (e : Editing) (add : Bool) : Edit Next := do
  if ← isLast e then
    -- Without a next line the script ends.
    return .quit true (← get).status
  else
    if !add && !e.quiet then emitLine e (← get).space (← get).ended
    flushQueue e
    match ← nextLine e with
    | none => return .quit false (← get).status
    | some l =>
      modify fun s =>
        { s with
          space := if add then s.space ++ e.lineEnd :: l.bytes else l.bytes
          ended := l.ended }
      return .goOn

/-- Carries out a command. -/
def perform (e : Editing) (cs : Array Command) (c : Command) : Edit Next := do
  let s ← get
  match c.action with
  | .block _ | .nothing | .label _ => return .goOn
  | .append text =>
    modify fun s => { s with queue := s.queue ++ [.text text] }
    return .goOn
  | .insert text =>
    emitText e text
    return .goOn
  | .change text => do
    emitText e text
    return .endCycle false false
  | .jump condition name =>
    let place := (labelPlace? cs name).getD cs.size
    match condition with
    | none => return .jump place
    | some wanted =>
      modify fun s => { s with replaced := false }
      return if s.replaced = wanted then .jump place else .goOn
  | .delete => return .endCycle false false
  | .deleteLine =>
    if s.space.contains 10 then
      modify fun s => { s with space := (s.space.dropWhile (· ≠ 10)).drop 1 }
      return .endCycle false true
    else return .endCycle false false
  | .name =>
    emitText e (textBytes (if s.file = "-" then "-" else s.file) ++ [10])
    return .goOn
  | .get add =>
    modify fun s => { s with space := if add then s.space ++ e.lineEnd :: s.hold else s.hold }
    return .goOn
  | .hold add =>
    modify fun s => { s with hold := if add then s.hold ++ e.lineEnd :: s.space else s.space }
    return .goOn
  | .exchange =>
    modify fun s => { s with space := s.hold, hold := s.space }
    return .goOn
  | .unambiguous width =>
    emitText e (wrapped (width.getD e.lineWidth) [] (s.space.map shownByte))
    return .goOn
  | .next add => advanceLine e add
  | .print =>
    emitLine e s.space s.ended
    return .goOn
  | .printLine =>
    let front := s.space.takeWhile (· ≠ 10)
    emitLine e front (front.length < s.space.length || s.ended)
    return .goOn
  | .quit printed status => return .quit printed status
  | .read file =>
    modify fun s => { s with queue := s.queue ++ [.file file] }
    return .goOn
  | .readLine file =>
    let lines ← match s.sources.lookup file with
      | some lines => pure lines
      | none => do
        match ← readOperand none file with
        | .ok bytes => pure (inputLines e.lineEnd bytes)
        | .error _ => pure []
    let others := s.sources.filter (·.1 ≠ file)
    match lines with
    | [] => modify fun s => { s with sources := (file, []) :: others }
    | l :: rest =>
      modify fun s =>
        { s with
          sources := (file, rest) :: others
          queue := s.queue ++ [.text (l.bytes ++ [e.lineEnd])] }
    return .goOn
  | .write file =>
    writeTo e file (s.space ++ [e.lineEnd])
    return .goOn
  | .writeLine file =>
    writeTo e file (s.space.takeWhile (· ≠ 10) ++ [10])
    return .goOn
  | .substitute sub =>
    match ← meant sub.automaton with
    | none => noExpression
    | some a =>
      let view := subject s.space sub.lines
      let (space, done) := replaceFrom sub a s.space view (2 * s.space.length + 4) 1 0 none
      if done then
        modify fun s => { s with space, replaced := true }
        if sub.printed then emitLine e space s.ended
        if let some file := sub.file then writeTo e file (space ++ [e.lineEnd])
      return .goOn
  | .exchangeOctets pairs =>
    modify fun s => { s with space := s.space.map fun b => (pairs.lookup b).getD b }
    return .goOn
  | .number =>
    emitText e (textBytes (toString s.number) ++ [10])
    return .goOn
  | .clear =>
    modify fun s => { s with space := [] }
    return .goOn

/-- Whether a command that changes lines puts out its text: for a range only at its end. -/
def isRangeEnd (place : Nat) (c : Command) : Edit Bool := do
  let state := ((← get).ranges[place]?).getD .outside
  return c.selector.stop.isNone || c.selector.inverted || (state matches .outside)

/-- Carries out the commands from a place on. -/
def performFrom (e : Editing) (cs : Array Command) : (fuel : Nat) → (place : Nat) → Edit Next
  | 0, _ => throw Stop.timeOver
  | fuel + 1, place => do
    match cs[place]? with
    | none => return .endCycle true false
    | some c =>
      if !(← selects e place c.selector) then
        match c.action with
        | .block stop => performFrom e cs fuel stop
        | _ => performFrom e cs fuel (place + 1)
      else
        let next ← match c.action with
          | .change _ =>
            if ← isRangeEnd place c then perform e cs c else pure (Next.endCycle false false)
          | _ => perform e cs c
        match next with
        | .goOn => performFrom e cs fuel (place + 1)
        | .jump p => performFrom e cs fuel p
        | next => return next

/-- How many commands are carried out for a line. -/
def maxCommands : Nat := 1000000

/-- Prints the pattern space at the end of a cycle. -/
def printSpace (e : Editing) (printed : Bool) : Edit Unit := do
  let s ← get
  if printed && !e.quiet then emitLine e s.space s.ended

/-- Edits line by line to the end; the status. `kept` says whether the pattern space is used
again. -/
def editLines (e : Editing) (cs : Array Command) : (fuel : Nat) → (kept : Bool) → Edit Nat
  | 0, _ => throw Stop.timeOver
  | fuel + 1, kept => do
    let line ← if kept then pure none else nextLine e
    if let some l := line then
      modify fun s => { s with space := l.bytes, ended := l.ended, replaced := false }
    if !kept && line.isNone then
      finishFile e
      return (← get).status
    match ← performFrom e cs maxCommands 0 with
    | .quit printed status =>
      printSpace e printed
      flushQueue e
      -- What is left of a file that is replaced stays as it is.
      if e.inPlace.isSome then
        for l in (← get).lines do emitLine e l.bytes l.ended
      finishFile e
      let before := (← get).status
      return if status = 0 then before else status
    | .endCycle printed kept =>
      printSpace e printed
      flushQueue e
      editLines e cs fuel kept
    | _ => editLines e cs fuel false

/-- The files that commands write. -/
def writtenFiles (cs : Array Command) : List String :=
  (cs.toList.filterMap fun c => match c.action with
    | .write f | .writeLine f => some f
    | .substitute s => s.file
    | _ => none).eraseDups

end Assay.Sed

namespace Assay.Shell

open Machine Host Sed

/-- The long names of the options of `sed`. -/
def editOptions : List (String × Char) :=
  [("quiet", 'n'), ("silent", 'n'), ("expression", 'e'), ("file", 'f'), ("regexp-extended", 'E'),
    ("separate", 's'), ("unbuffered", 'u'), ("null-data", 'z'), ("line-length", 'l'),
    ("posix", 'p')]

/-- The option that lets files be replaced, among arguments: the arguments without it, and the
ending of the names of copies. -/
def inPlaceOption : List String → List String × Option String
  | [] => ([], none)
  | arg :: rest =>
    let (rest', found) := inPlaceOption rest
    if arg = "--" then (arg :: rest, none)
    else if arg = "--in-place" then (rest', some "")
    else if arg.startsWith "--in-place=" then
      (rest', some (String.ofList (arg.toList.drop 11)))
    else match arg.toList with
      | '-' :: l :: letters =>
        let plain := (l :: letters).takeWhile "nErsuz".toList.contains
        match (l :: letters).drop plain.length with
        | 'i' :: ending =>
          (if plain.isEmpty then rest' else String.ofList ('-' :: plain) :: rest',
            some (String.ofList ending))
        | _ => (arg :: rest', found)
      | _ => (arg :: rest', found)

/-- Parts of a script joined by line breaks. -/
def joinedScript (parts : List (List UInt8)) : List UInt8 :=
  [10].intercalate parts

/-- The script of `sed`, and its operands. -/
def editScript (o : Options) : Eval (Except String (List (List UInt8) × List String)) := do
  let mut parts : List (List UInt8) := []
  for (letter, value) in o.letters do
    if letter = 'e' then parts := parts ++ [textBytes value]
    if letter = 'f' then
      match ← readWhole value with
      | .ok bytes =>
        let bs := bytes.toList
        parts := parts ++ [if bs.getLast? = some 10 then bs.dropLast else bs]
      | .error fault =>
        complain ("sed: couldn't open file " ++ value ++ ": " ++ fault.words)
        throw (.exit 4)
  if o.has 'e' || o.has 'f' then return .ok (parts, o.operands)
  else match o.operands with
    | script :: rest => return .ok ([textBytes script], rest)
    | [] => return .error ""

/-- Gives lines back that were read of the standard input, if that is an open file. -/
def giveBackLines (lines : List InputLine) : Eval Unit := do
  if let .file i ← streamOf 0 then
    let size := lines.foldl (fun n l => n + l.bytes.length + if l.ended then 1 else 0) 0
    changeWorld fun w =>
      { w with opened := w.opened.modify i fun o => { o with position := o.position - size } }

/-- `sed` edits its input by a script. -/
def sed : Utility := fun args => do
  let (args, inPlace) := inPlaceOption args
  match readOptions "nErsuzp" "efl" editOptions args with
  | .error message =>
    complain ("sed: " ++ message)
    complain "Usage: sed [OPTION]... \x7bscript-only-if-no-other-script\x7d [input-file]..."
    return 1
  | .ok o =>
    match ← editScript o with
    | .error message =>
      complain (if message.isEmpty then
        "Usage: sed [OPTION]... \x7bscript-only-if-no-other-script\x7d [input-file]..."
        else "sed: " ++ message)
      return 1
    | .ok (parts, operands) =>
      let script := joinedScript parts
      let hashed := script.take 2 = [35, 110] && (script.length = 2 || script[2]? = some 10)
      match Sed.parse (o.has 'E' || o.has 'r') script with
      | .error (place, message) =>
        complain ("sed: -e expression #1, char " ++ toString place ++ ": " ++ message)
        return 1
      | .ok cs =>
        match missingLabel? cs with
        | some name =>
          complain ("sed: can't find label for jump to \x60" ++ name ++ "'")
          return 1
        | none =>
          let e : Editing := {
            quiet := o.has 'n' || hashed
            separate := o.has 's' || inPlace.isSome
            inPlace
            lineEnd := if o.has 'z' then 0 else 10
            lineWidth := ((o.value? 'l').bind naturalNumber?).getD 70 }
          let mut targets : List (String × Target) := []
          for path in writtenFiles cs do
            if path ≠ "/dev/stdout" then
              match ← openForWriting true path with
              | .ok t => targets := (path, t) :: targets
              | .error fault =>
                complain ("sed: couldn't open file " ++ path ++ ": " ++ fault.words)
                throw (.exit 4)
          let s : EditState := {
            files := orInput operands
            ranges := (cs.toList.map fun c =>
              match c.selector.start with
              | some .zero => RangeState.inside none
              | _ => RangeState.outside).toArray
            targets }
          let (status, s) ← (editLines e cs maxCommands false).run s
          -- Who stops early does not want what there would have been.
          if !s.lines.isEmpty then
            let _ ← takeHunger
            if s.file = "-" then giveBackLines s.lines
          refuseHunger
          return status

end Assay.Shell
