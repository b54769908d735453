import Assay.Shell.Process
import Assay.Utility.Awk.Parser
import Assay.Utility.Awk.Table
import Assay.Utility.Awk.Value
import Assay.Utility.Change

/-!
# The state of a program

A program has variables and tables, a record that is cut into fields, the files and commands it
reads and those it writes. What it prints is kept back until there is much of it, another program is
run, or the program ends.
-/

namespace Assay.Awk

open Machine Host Shell Expression

/-- What is read, and how far it has been. -/
structure Source where
  bytes : ByteArray
  place : Nat := 0

/-- What stands between records. -/
inductive Separator where
  | octet (b : UInt8)
  /-- Empty lines. -/
  | paragraphs
  | found (a : Automaton)

/-- The first place of an octet from one on. -/
def indexFrom (bytes : ByteArray) (b : UInt8) : (left : Nat) → (i : Nat) → Option Nat
  | 0, _ => none
  | left + 1, i =>
    if h : i < bytes.size then
      if bytes[i] = b then some i else indexFrom bytes b left (i + 1)
    else none

/-- The first place from one on at which no line break stands. -/
def skipBreaks (bytes : ByteArray) : (left : Nat) → (i : Nat) → Nat
  | 0, i => i
  | left + 1, i =>
    if h : i < bytes.size then if bytes[i] = 10 then skipBreaks bytes left (i + 1) else i
    else i

/-- The first empty line from a place on. -/
def emptyLine (bytes : ByteArray) : (left : Nat) → (i : Nat) → Option Nat
  | 0, _ => none
  | left + 1, i =>
    match indexFrom bytes 10 (bytes.size - i) i with
    | none => none
    | some j =>
      if h : j + 1 < bytes.size then
        if bytes[j + 1] = 10 then some j else emptyLine bytes left (j + 1)
      else none

/-- The next record. -/
def Source.next (sep : Separator) (s : Source) : Option (List UInt8 × Source) :=
  let size := s.bytes.size
  let part (a b : Nat) : List UInt8 := (s.bytes.extract a b).toList
  match sep with
  | .octet b =>
    if size ≤ s.place then none
    else match indexFrom s.bytes b (size - s.place) s.place with
      | some i => some (part s.place i, { s with place := i + 1 })
      | none => some (part s.place size, { s with place := size })
  | .paragraphs =>
    let start := skipBreaks s.bytes size s.place
    if size ≤ start then none
    else match emptyLine s.bytes (size - start) start with
      | some i => some (part start i, { s with place := skipBreaks s.bytes size i })
      | none =>
        let stop := if s.bytes.get! (size - 1) = 10 then size - 1 else size
        some (part start stop, { s with place := size })
  | .found a =>
    if size ≤ s.place then none
    else match a.find { octets := s.bytes } s.place with
      | some f =>
        if f.start < f.stop then some (part s.place f.start, { s with place := f.stop })
        else some (part s.place size, { s with place := size })
      | none => some (part s.place size, { s with place := size })

/-- A file or a command that is read. -/
structure Opened where
  source : Source
  /-- The status of a command. -/
  status : Option Nat := none

/-- Where output goes. -/
inductive Writer where
  | output
  | complaints
  /-- A file, and what is kept back for it, the last part first. -/
  | file (target : Target) (kept : List (List UInt8))
  /-- What is written to a command, the last part first. -/
  | command (parts : List (List UInt8))

/-- What belongs to a parameter. -/
inductive Slot where
  | empty
  | cell (c : Cell)
  | table (place : Nat)
deriving Inhabited

/-- The state between two statements. -/
structure Memory where
  shared : Std.HashMap String Cell := {}
  /-- The places of shared tables. -/
  sharedTables : Std.HashMap String Nat := {}
  tables : Array (Table Cell) := #[]
  frame : Array Slot := #[]
  record : Cell := .empty
  fields : Array Cell := #[]
  ranges : Array Bool := #[]
  /-- What was printed and is kept back, the last part first. -/
  kept : List (List UInt8) := []
  keptSize : Nat := 0
  source : Option Source := none
  /-- The number of the next argument that may name a file. -/
  argument : Nat := 1
  /-- Whether an argument named a file. -/
  named : Bool := false
  readers : List (List UInt8 × Opened) := []
  writers : List (List UInt8 × Writer) := []
  automata : List (List UInt8 × Automaton) := []
  seed : Float := 0
  random : Nat := 1
  status : Nat := 0
  steps : Nat := 0
  depth : Nat := 0

/-- What leads away from a statement. -/
inductive Jump where
  | next
  | nextFile
  | leave
  | giveBack (c : Cell)
  | leaveLoop
  | nextRound

/-- What runs. -/
abbrev Action := ExceptT Jump (StateT Memory Eval)

/-- Runs something in the shell. -/
def inShell {α : Type} (body : Eval α) : Action α :=
  ExceptT.lift (StateT.lift body)

/-- How many steps a program may take. -/
def maxSteps : Nat := 2000000

/-- How deep calls may be nested. -/
def maxDepth : Nat := 2000

/-- Counts a step. -/
def step : Action Unit := do
  modify fun m => { m with steps := m.steps + 1 }
  if maxSteps < (← get).steps then inShell (throw Stop.timeOver)

/-! ## Variables -/

/-- The value of a shared variable. -/
def sharedCell (name : String) : Action Cell := do
  let m ← get
  if name = "NF" then return .number (Float.ofNat m.fields.size)
  return (m.shared[name]?).getD .empty

/-- The format for numbers in texts. -/
def convFormat : Action (List UInt8) := do
  match (← get).shared["CONVFMT"]? with
  | some (.text bs) => return bs
  | _ => return textBytes "%.6g"

/-- A value as octets. -/
def textOf (c : Cell) : Action (List UInt8) := do
  match c with
  | .number x => if isWhole x then return wholeText x else return numberText (← convFormat) x
  | c => return c.toText []

/-- The text of a shared variable. -/
def sharedText (name : String) : Action (List UInt8) := do
  textOf (← sharedCell name)

/-- Puts out what is kept back for the standard output. -/
def flushOutput : Action Unit := do
  let m ← get
  if !m.kept.isEmpty then
    set { m with kept := [], keptSize := 0 }
    inShell (write 1 ⟨m.kept.reverse.flatten.toArray⟩)

/-- Puts out what is kept back for a file; why it is not taken, if so. -/
def flushWriter (w : Writer) : Action (Option Host.Fault) := do
  match w with
  | .file target (p :: ps) =>
    inShell (writeToTarget target ⟨(p :: ps).reverse.flatten.toArray⟩)
  | _ => return none

/-- Puts out all that is kept back. -/
def flush : Action Unit := do
  flushOutput
  for (_, w) in (← get).writers do
    let _ ← flushWriter w
  modify fun m =>
    { m with
      writers := m.writers.map fun (name, w) =>
        (name, match w with
          | .file target _ => .file target []
          | w => w) }

/-- Reports a fault that ends the program. -/
def fail {α : Type} (message : String) : Action α := do
  flush
  inShell do
    complain ("awk: " ++ message)
    throw (Stop.exit 2)

/-- Reports a fault of the program, with the place in the input. -/
def failAt {α : Type} (message : String) : Action α := do
  let file := Text.decodeLossy ⟨(← sharedText "FILENAME").toArray⟩
  let fnr := Text.decodeLossy ⟨(← sharedText "FNR").toArray⟩
  let nr := Text.decodeLossy ⟨(← sharedText "NR").toArray⟩
  fail ("run time error: " ++ message ++ "\n\tFILENAME=\"" ++ file ++ "\" FNR=" ++
    (if fnr.isEmpty then "0" else fnr) ++ " NR=" ++ (if nr.isEmpty then "0" else nr))

/-- The automaton of an expression that a text writes. -/
def automatonOf (bs : List UInt8) : Action Automaton := do
  match (← get).automata.lookup bs with
  | some a => return a
  | none =>
    match compile regexStyle false bs with
    | .error fault => fail (regexComplaint bs fault)
    | .ok a =>
      modify fun m => { m with automata := (bs, a) :: m.automata.take 20 }
      return a

/-- How a text says that texts are cut. -/
def splitterOf (bs : List UInt8) : Action Splitter := do
  match bs with
  | [] => return .everywhere
  | [32] => return .blanks
  | [b] => return .octet b
  | bs => return .found (← automatonOf bs)

/-- How a text says that records are told apart. -/
def separatorOf (bs : List UInt8) : Action Separator := do
  match bs with
  | [] => return .paragraphs
  | [b] => return .octet b
  | bs => return .found (← automatonOf bs)

/-! ## Records and fields -/

/-- Sets the record. -/
def setRecord (c : Cell) : Action Unit := do
  let bs ← textOf c
  let splitter ← splitterOf (← sharedText "FS")
  let fields := ((splitter.parts bs).map Cell.ofInput).toArray
  modify fun m => { m with record := c, fields }

/-- Makes the record from its fields. -/
def joinFields : Action Unit := do
  let ofs ← sharedText "OFS"
  let texts ← (← get).fields.toList.mapM textOf
  let record := Cell.ofInput (ofs.intercalate texts)
  modify fun m => { m with record }

/-- Sets how many fields there are. -/
def setFieldCount (x : Float) : Action Unit := do
  if x < 0 then failAt "negative value assigned to NF"
  let n := (wholeNumber x).toNat
  modify fun m =>
    { m with
      fields := if n ≤ m.fields.size then m.fields.extract 0 n
        else m.fields ++ Array.replicate (n - m.fields.size) Cell.empty }
  joinFields

/-- The value of a field. -/
def fieldCell (i : Nat) : Action Cell := do
  let m ← get
  if i = 0 then return m.record
  return (m.fields[i - 1]?).getD .empty

/-- Sets a field. -/
def setField (i : Nat) (c : Cell) : Action Unit := do
  if i = 0 then
    setRecord (match c with
      | .text bs => .ofInput bs
      | c => c)
  else
    modify fun m =>
      let fields := if i ≤ m.fields.size then m.fields
        else m.fields ++ Array.replicate (i - m.fields.size) Cell.empty
      { m with fields := fields.setIfInBounds (i - 1) c }
    joinFields

/-- Sets a shared variable. -/
def setShared (name : String) (c : Cell) : Action Unit := do
  if name = "NF" then setFieldCount c.toNumber
  else modify fun m => { m with shared := m.shared.insert name c }

/-- The value of a variable. -/
def cellOf (n : Name) : Action Cell := do
  match n with
  | .shared name => sharedCell name
  | .own i =>
    match (← get).frame[i]? with
    | some (.cell c) => return c
    | _ => return .empty

/-- Sets a variable. -/
def setCell (n : Name) (c : Cell) : Action Unit := do
  match n with
  | .shared name => setShared name c
  | .own i => modify fun m => { m with frame := m.frame.setIfInBounds i (.cell c) }

/-! ## Tables -/

/-- The place of a new table. -/
def newTable : Action Nat := do
  let place := (← get).tables.size
  modify fun m => { m with tables := m.tables.push {} }
  return place

/-- The place of the table that a name stands for. -/
def tablePlace (n : Name) : Action Nat := do
  let m ← get
  match n with
  | .shared name =>
    match m.sharedTables[name]? with
    | some i => return i
    | none =>
      let i ← newTable
      modify fun m => { m with sharedTables := m.sharedTables.insert name i }
      return i
  | .own i =>
    match m.frame[i]? with
    | some (.table place) => return place
    | _ =>
      let place ← newTable
      modify fun m => { m with frame := m.frame.setIfInBounds i (.table place) }
      return place

/-- Does something with a table. -/
def withTable {α : Type} (place : Nat) (f : Table Cell → α × Table Cell) : Action α := do
  let m ← get
  let t := (m.tables[place]?).getD {}
  -- The table is taken out of the state, so that it can be changed in its place.
  set { m with tables := m.tables.setIfInBounds place {} }
  let (a, t) := f t
  modify fun m => { m with tables := m.tables.setIfInBounds place t }
  return a

/-- The key that a value is, and its number if it came as one. -/
def keyOfCell (c : Cell) : Action (Key × Option Int) := do
  match c with
  | .number x =>
    if isWhole x && x.abs < 1000000000 then
      let n := wholeNumber x
      return (keyOf n, some n)
    else return (← textOf c, none)
  | c => return (← textOf c, none)

/-- The key that several values are. -/
def keyOfCells (cs : List Cell) : Action (Key × Option Int) := do
  match cs with
  | [c] => keyOfCell c
  | cs =>
    let texts ← cs.mapM textOf
    let sep ← sharedText "SUBSEP"
    return (sep.intercalate texts, none)

/-! ## Input -/

/-- The value of an argument. -/
def argumentCell (i : Nat) : Action Cell := do
  let place ← tablePlace (.shared "ARGV")
  return (((← get).tables[place]?).bind fun t => t.get? (keyOf i)).getD .empty

/-- Whether a text is a name. -/
def isName (s : List Char) : Bool :=
  match s with
  | c :: cs => (c.isAlpha || c = '_') && cs.all fun c => c.isAlphanum || c = '_'
  | [] => false

/-- A text with its escapes replaced. -/
def unescaped (s : List Char) : List UInt8 :=
  let rec go (fuel : Nat) (s : List Char) : List UInt8 :=
    match fuel, s with
    | 0, _ | _, [] => []
    | fuel + 1, '\\' :: c :: rest =>
      if isOctal c then
        let (b, rest) := octalByte 3 (c :: rest)
        b :: go fuel rest
      else if c = '"' || c = '\\' || c = '/' then charBytes c ++ go fuel rest
      else match letterEscape? c with
        | some b => b :: go fuel rest
        | none => 92 :: charBytes c ++ go fuel rest
    | fuel + 1, c :: rest => charBytes c ++ go fuel rest
  go (s.length + 1) s

/-- The assignment that an argument writes. -/
def assignment (s : String) : Option (String × List UInt8) :=
  let name := s.toList.takeWhile (· ≠ '=')
  if isName name && name.length < s.length then
    some (String.ofList name, unescaped (s.toList.drop (name.length + 1)))
  else none

/-- All octets of a file that is read as input. -/
def inputOf (path : String) : Action Source := do
  match ← inShell (readOperand none path) with
  | .ok bytes => return { bytes }
  | .error .isDirectory => fail ("read error (" ++ Fault.isDirectory.words ++ ")")
  | .error .badStream => fail ("read error (" ++ Fault.badStream.words ++ ")")
  | .error fault => fail ("cannot open \"" ++ path ++ "\" (" ++ fault.words ++ ")")

/-- Opens the next file of the input; whether there is one. -/
def openInput : (fuel : Nat) → Action Bool
  | 0 => return false
  | fuel + 1 => do
    let m ← get
    let count := (wholeNumber (← sharedCell "ARGC").toNumber).toNat
    if count ≤ m.argument then
      if m.named then return false
      let source ← inputOf "-"
      setShared "FILENAME" (.text [45])
      modify fun m => { m with source := some source, named := true }
      return true
    else
      let text := Text.decodeLossy ⟨(← textOf (← argumentCell m.argument)).toArray⟩
      modify fun m => { m with argument := m.argument + 1 }
      if text.isEmpty then openInput fuel
      else match assignment text with
        | some (name, value) =>
          setShared name (.ofInput value)
          openInput fuel
        | none =>
          modify fun m => { m with named := true }
          setShared "FILENAME" (.text (textBytes text))
          setShared "FNR" (.number 0)
          let source ← inputOf text
          modify fun m => { m with source := some source }
          return true

/-- The next record of the input. -/
def nextRecord : (fuel : Nat) → Action (Option (List UInt8))
  | 0 => return none
  | fuel + 1 => do
    match (← get).source with
    | some source =>
      let sep ← separatorOf (← sharedText "RS")
      match source.next sep with
      | some (bs, source) =>
        modify fun m => { m with source := some source }
        return some bs
      | none =>
        inShell refuseHunger
        modify fun m => { m with source := none }
        nextRecord fuel
    | none =>
      if ← openInput fuel then nextRecord fuel else return none

/-- The next record of the input, which is then counted. -/
def countedRecord : Action (Option (List UInt8)) := do
  let count := (wholeNumber (← sharedCell "ARGC").toNumber).toNat
  match ← nextRecord (2 * count + 8) with
  | none => return none
  | some bs =>
    for name in ["NR", "FNR"] do
      setShared name (.number ((← sharedCell name).toNumber + 1))
    return some bs

/-! ## Output -/

/-- How much output is kept back. -/
def maxKept : Nat := 4096

/-- Prints octets. -/
def emit (bs : List UInt8) : Action Unit := do
  modify fun m => { m with kept := bs :: m.kept, keptSize := m.keptSize + bs.length }
  if maxKept < (← get).keptSize then flushOutput

/-- Runs a command, with other streams if they are given; its status. -/
def runCommand (launcher : Launcher) (command : List UInt8) (input output : Option Nat) :
    Eval Nat := do
  let streams := (← shell).streams
  if let some i := input then setStream 0 (.channel i)
  if let some o := output then setStream 1 (.channel o)
  let result ← launcher.start none "/bin/sh" ["-c", Text.decodeLossy ⟨command.toArray⟩]
  changeShell fun s => { s with streams }
  match result with
  | .ok finish => return (finish.signal.map (256 + ·)).getD finish.status
  | .error fault => return launchStatus fault

/-- Ends what is written; a status. -/
def closeWriter (launcher : Launcher) (name : List UInt8) (w : Writer) : Action Nat := do
  match w with
  | .output | .complaints => return 0
  | .file .. =>
    match ← flushWriter w with
    | none => return 0
    | some fault =>
      flushOutput
      inShell do
        complain ("awk: close failed on file \"" ++ Text.decodeLossy ⟨name.toArray⟩ ++ "\" (" ++
          fault.words ++ ")")
        throw (Stop.exit 2)
  | .command parts =>
    inShell do
      let channel ← newChannel none
      changeWorld fun w =>
        { w with
          channels := w.channels.modify channel fun c =>
            { c with bytes := ⟨parts.reverse.flatten.toArray⟩ } }
      runCommand launcher name (some channel) none

/-- Where output of a name goes. -/
def writerOf (outlet : Outlet) (name : List UInt8) : Action Writer := do
  match (← get).writers.lookup name with
  | some w => return w
  | none =>
    let path := Text.decodeLossy ⟨name.toArray⟩
    let w ← match outlet with
      | .command => do
        flush
        pure (Writer.command [])
      | outlet =>
        if path = "/dev/stdout" then pure Writer.output
        else if path = "/dev/stderr" then pure Writer.complaints
        else do
          match ← inShell (openForWriting (outlet = .file) path) with
          | .ok target => pure (Writer.file target [])
          | .error fault =>
            fail ("cannot open \"" ++ path ++ "\" for output (" ++ fault.words ++ ")")
    return w

/-- Writes octets to where they are to go. -/
def emitTo (goal : Option (Outlet × List UInt8)) (bs : List UInt8) : Action Unit := do
  match goal with
  | none => emit bs
  | some (outlet, name) =>
    let w ← writerOf outlet name
    let w ← match w with
      | .output => do
        emit bs
        pure w
      | .complaints => do
        inShell (write 2 ⟨bs.toArray⟩)
        pure w
      | .file target kept => pure (Writer.file target (bs :: kept))
      | .command parts => pure (Writer.command (bs :: parts))
    modify fun m => { m with writers := (name, w) :: m.writers.filter (·.1 ≠ name) }

/-- Ends all that is written. -/
def closeAll (launcher : Launcher) : Action Unit := do
  let writers := (← get).writers
  modify fun m => { m with writers := [] }
  for (name, w) in writers do
    let _ ← closeWriter launcher name w
  flush

end Assay.Awk
