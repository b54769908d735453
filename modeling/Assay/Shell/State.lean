import Assay.Machine.Disk
import Assay.Shell.Option
import Assay.Shell.Syntax

/-!
# The state of a shell

A shell has a name, arguments, variables and functions, a directory, and numbered streams. Shells
share a world: the tree of files, the clock, the channels and files that streams lead to, and the
commands in the background. Running a command may stop short: at an exit, at a fault or a signal, at
the end of a loop or function, and when the time is over. The state is kept in each case.

A channel may have a limit. Who writes beyond it is stopped, as if nobody read the channel any more;
the channel is then cut, and a reader that comes to its end is starved: it did not get what it would
have got. Running the writer again with a greater limit gives it more.
-/

namespace Assay.Shell

open Machine Host

/-- Where a stream leads to. -/
inductive Stream where
  | closed
  | null
  /-- Bytes without end; whether there is space for what is written. -/
  | endless (takes : Bool)
  /-- A channel by its number. -/
  | channel (i : Nat)
  /-- An opened file by its number. -/
  | file (i : Nat)
deriving DecidableEq

/-- What was written to a channel, and how much of it has been read. -/
structure Channel where
  bytes : ByteArray := ⟨#[]⟩
  read : Nat := 0
  /-- How much can be written before the writer is stopped. -/
  limit : Option Nat := none
  /-- Whether there would have been more if the writer had not been stopped. -/
  cut : Bool := false

/-- An opened file: where it is, and where reading and writing go on. -/
structure Opened where
  path : List String
  position : Nat := 0
  /-- Whether writing always goes on at the end. -/
  atEnd : Bool := false

/-- The value of a variable, if it has one, and what may be done with it. -/
structure Variable where
  value : Option String
  /-- Whether commands get it. -/
  exported : Bool := false
  /-- Whether it stays as it is. -/
  fixed : Bool := false

/-- What a shell does at a signal. -/
inductive Reaction where
  | ignore
  | run (script : String)
deriving DecidableEq

/-- One shell: what it is called with, what it knows and where it stands. -/
structure Session where
  name : String
  args : List String := []
  bindings : List (String × Variable) := []
  functions : List (String × Script) := []
  /-- The words that stand for others where a command begins. -/
  aliases : List (String × String) := []
  /-- The documents of the scripts that were read, by their numbers. -/
  documents : Array Document := #[]
  status : Nat := 0
  /-- The status of the script that was last run for what it prints. -/
  substitution : Option Nat := none
  /-- The number of the process that the shell was called as. -/
  process : Nat
  /-- The number of the process that it runs as: a copy of a shell has one of its own. -/
  self : Nat
  directory : List String
  /-- The path by which the shell came to its directory. -/
  path : String := ""
  line : Nat := 1
  /-- The command in whose name faults are reported, if there is one. -/
  speaker : Option String := none
  streams : List (Nat × Stream) := []
  settings : Settings := []
  /-- The number of loops around the command that is run. -/
  loops : Nat := 0
  /-- The variables that a function has for itself, with what they were before; none outside of
  functions. -/
  locals : Option (List (String × Option Variable)) := none
  /-- The options from before a function, if it has its own. -/
  ownSettings : Option Settings := none
  /-- What is done at signals, and with number zero at the exit. -/
  traps : List (Nat × Reaction) := []
  /-- The status from before the trap that is run. -/
  trapStatus : Option Nat := none
  /-- The processes around it, the nearest one first, and what they do at signals. -/
  ancestors : List (Nat × List (Nat × Reaction)) := []
  /-- The number of the argument that is looked at next for an option. -/
  optionNext : Nat := 1
  /-- The place in an argument with several options at which the next one stands. -/
  optionPlace : Option Nat := none
  /-- The programs that were found on the search path. -/
  located : List String := []
  /-- The process of the last command that was put into the background. -/
  background : Option Nat := none
  /-- The bits that new files do not get. -/
  mask : Nat := 0o022
  /-- Why what was printed was not taken, if it was not. -/
  unwritten : Option Fault := none

/-- A command in the background: the shell that runs it, and when it begins and ends. -/
structure Job where
  process : Nat
  /-- The process that started it. -/
  owner : Nat
  shell : Session
  script : Script
  begins : Nat
  /-- When it ends, if it does. -/
  ends : Option Nat := none
  /-- Whether it has been found out when it ends. -/
  known : Bool := false
  /-- Its status, and the signal that ended it. -/
  outcome : Option (Nat × Option Nat) := none

/-- A signal on its way to a process. -/
structure Sent where
  time : Nat
  process : Nat
  number : Nat

/-- What shells share. -/
structure World where
  root : Tree
  /-- The nanoseconds that have passed. -/
  clock : Nat := 0
  /-- When the time is over. -/
  deadline : Option Nat := none
  /-- The number of the next process. -/
  nextProcess : Nat := 1000
  channels : Array Channel := #[]
  opened : Array Opened := #[]
  jobs : List Job := []
  /-- The signals that processes have got and not yet reacted to. -/
  signals : List (Nat × Nat) := []
  /-- The signals that processes in the background will get. -/
  scheduled : List Sent := []
  /-- Whether a reader got less than there would have been if a writer had not been stopped. -/
  hungry : Bool := false

/-- A shell and what it shares. -/
structure State where
  shell : Session
  world : World

/-- Why running stops short. -/
inductive Stop where
  | exit (status : Nat)
  /-- A fault that was reported. -/
  | fault
  /-- What is written is not read any more. -/
  | unread
  /-- What was written for a reader is not enough for it. -/
  | starved
  /-- A signal ends a process. -/
  | signal (process number : Nat)
  | leaveLoops (count : Nat)
  | nextRound (count : Nat)
  | leaveFunction (status : Nat)
  | timeOver

/-- What runs in a shell. -/
abbrev Eval := ExceptT Stop (StateM State)

/-! ## Parts of the state -/

/-- The shell. -/
def shell : Eval Session :=
  return (← get).shell

/-- The world. -/
def world : Eval World :=
  return (← get).world

/-- Changes the shell. -/
def changeShell (f : Session → Session) : Eval Unit :=
  modify fun s => { s with shell := f s.shell }

/-- Changes the world. -/
def changeWorld (f : World → World) : Eval Unit :=
  modify fun s => { s with world := f s.world }

/-- The signals that do not end a process. -/
def harmlessSignals : List Nat :=
  [0, 17, 18, 19, 20, 21, 22, 23, 28]

/-- Whether a signal ends a process with reactions. -/
def endsProcess (reactions : List (Nat × Reaction)) (number : Nat) : Bool :=
  number = 9 || !(harmlessSignals.contains number || (reactions.lookup number).isSome)

/-- Lets time pass, up to the time that is over or to a signal that ends the process or one around
it. -/
def pass (nanoseconds : Nat) : Eval Unit := do
  let w ← world
  let s ← shell
  let later := w.clock + nanoseconds
  let (due, left) := w.scheduled.partition (·.time ≤ later)
  let processes := (s.self, s.traps) :: s.ancestors
  let (own, others) := due.partition fun e => (processes.lookup e.process).isSome
  let stops := own.find? fun e => endsProcess ((processes.lookup e.process).getD []) e.number
  let clock := match stops with
    | some e => max w.clock e.time
    | none => later
  let signals := w.signals ++ own.map fun e => (e.process, e.number)
  changeWorld fun w => { w with clock, signals, scheduled := left ++ others }
  if w.deadline.any (· < clock) then throw .timeOver
  if let some e := stops then throw (.signal e.process e.number)

/-- The nanoseconds that starting a process takes. -/
def startTime : Nat := 1000000

/-- Runs something and tells how it stopped short, if it did. -/
def attempt {α : Type} (body : Eval α) : Eval (Except Stop α) :=
  ExceptT.mk (Except.ok <$> body.run)

/-- Runs something and then something else, however the first one ends. -/
def finallyDo {α : Type} (body : Eval α) (after : Eval Unit) : Eval α := do
  let result ← attempt body
  after
  match result with
  | .ok a => return a
  | .error stop => throw stop

/-- Runs something and leaves no trace of it but what it tells. -/
def onTrial {α : Type} (body : Eval α) : Eval (Except Stop α × State) := do
  let before ← get
  let result ← attempt body
  let after ← get
  set before
  return (result, after)

/-- The number of a new process. -/
def newProcess : Eval Nat := do
  let n := (← world).nextProcess
  changeWorld fun w => { w with nextProcess := n + 1 }
  return n

/-! ## Streams -/

/-- Where a numbered stream leads to. -/
def streamOf (n : Nat) : Eval Stream :=
  return ((← shell).streams.lookup n).getD .closed

/-- Bytes of a file with others put in at a position. -/
def splice (contents bytes : ByteArray) (position : Nat) : ByteArray :=
  contents.extract 0 position ++ bytes ++
    contents.extract (position + bytes.size) contents.size

/-- Adds bytes to a channel up to its limit. -/
def Channel.add (c : Channel) (bytes : ByteArray) : Channel :=
  match c.limit with
  | none => { c with bytes := c.bytes ++ bytes }
  | some limit =>
    if c.bytes.size + bytes.size ≤ limit then { c with bytes := c.bytes ++ bytes }
    else { c with bytes := c.bytes ++ bytes.extract 0 (limit - c.bytes.size), cut := true }

/-- Writes to where a stream leads to; a fault is why it does not take what is written. -/
def writeTo (stream : Stream) (bytes : ByteArray) : Eval (Option Fault) := do
  if bytes.size = 0 then return none
  match stream with
  | .channel i =>
    changeWorld fun w => { w with channels := w.channels.modify i fun c => c.add bytes }
    if (((← world).channels[i]?).any Channel.cut) then throw .unread
    return none
  | .file i =>
    changeWorld fun w =>
      match w.opened[i]? with
      | none => w
      | some o =>
        match w.root.get? o.path with
        | some (.file mode contents) =>
          let position := if o.atEnd then contents.size else o.position
          { w with
            root := w.root.replace o.path (.file mode (splice contents bytes position))
            opened := w.opened.modify i fun o => { o with position := position + bytes.size } }
        | _ => w
    return none
  | .null | .endless true => return none
  | .closed => return some .badStream
  | .endless false => return some .noSpace

/-- Writes to a numbered stream. It is remembered if the stream does not take what is written. -/
def write (n : Nat) (bytes : ByteArray) : Eval Unit := do
  if let some fault ← writeTo (← streamOf n) bytes then
    if n = 1 then changeShell fun s => { s with unwritten := some fault }

/-- Prints a text. -/
def print (s : String) : Eval Unit :=
  write 1 s.toUTF8

/-- Prints a line. -/
def printLine (s : String) : Eval Unit :=
  print (s ++ "\n")

/-- Prints lines. -/
def printLines (lines : List String) : Eval Unit := do
  for l in lines do printLine l

/-- Prints a line on the stream for faults. -/
def complain (s : String) : Eval Unit :=
  write 2 (s ++ "\n").toUTF8

/-- Prints a fault with the name of the shell, the number of the line, and the command in whose name
it is reported. -/
def complainAt (s : String) : Eval Unit := do
  let sh ← shell
  let speaker := match sh.speaker with
    | some name => name ++ ": "
    | none => ""
  complain (sh.name ++ ": " ++ toString sh.line ++ ": " ++ speaker ++ s)

/-- Reports a fault that ends the shell, or the command that gave rise to it. -/
def fatal {α : Type} (message : String) : Eval α := do
  complainAt message
  throw .fault

/-- Runs something in the name of a command. -/
def speakingAs {α : Type} (name : String) (body : Eval α) : Eval α := do
  let before := (← shell).speaker
  changeShell fun s => { s with speaker := some name }
  finallyDo body (changeShell fun s => { s with speaker := before })

/-- How many bytes of what has no end are read at once. -/
def endlessPart : Nat := 1048576

/-- Reads the bytes to come from a channel, so many at most. -/
def readChannel (i : Nat) (limit : Option Nat) : Eval ByteArray := do
  let c := ((← world).channels[i]?).getD {}
  let stop := match limit with
    | some k => min c.bytes.size (c.read + k)
    | none => c.bytes.size
  let short := match limit with
    | some k => c.bytes.size < c.read + k
    | none => true
  changeWorld fun w =>
    { w with
      channels := w.channels.modify i ({ · with read := stop })
      hungry := w.hungry || (c.cut && short) }
  return c.bytes.extract c.read stop

/-- Reads the bytes to come from an opened file, so many at most. -/
def readOpened (i : Nat) (limit : Option Nat) : Eval ByteArray := do
  let w ← world
  let o := (w.opened[i]?).getD { path := [] }
  match w.root.get? o.path with
  | some (.file _ contents) =>
    let stop := match limit with
      | some k => min contents.size (o.position + k)
      | none => contents.size
    changeWorld fun w =>
      { w with opened := w.opened.modify i ({ · with position := max o.position stop }) }
    return contents.extract o.position stop
  | _ => return ⟨#[]⟩

/-- Reads bytes without end, so many; a part of them without a limit, which is never enough. -/
def readEndless (limit : Option Nat) : Eval ByteArray := do
  if limit.isNone then changeWorld fun w => { w with hungry := true }
  return ⟨Array.replicate (limit.getD endlessPart) 0⟩

/-- Reads the bytes to come from where a stream leads to, so many at most. If there would be more of
them than there are, the reader is hungry. -/
def readStream (stream : Stream) (limit : Option Nat) : Eval (Except Fault ByteArray) := do
  match stream with
  | .endless _ => .ok <$> readEndless limit
  | .channel i => .ok <$> readChannel i limit
  | .file i =>
    let w ← world
    match (w.opened[i]?).bind fun o => w.root.get? o.path with
    | some (.dir ..) => return .error .isDirectory
    | _ => .ok <$> readOpened i limit
  | .null => return .ok ⟨#[]⟩
  | .closed => return .error .badStream

/-- Reads the bytes to come from a numbered stream, so many at most. -/
def readFrom (n : Nat) (limit : Option Nat) : Eval (Except Fault ByteArray) := do
  readStream (← streamOf n) limit

/-- Stops a reader that got less than there would be. -/
def refuseHunger : Eval Unit := do
  if (← world).hungry then
    changeWorld fun w => { w with hungry := false }
    throw .starved

/-- A new channel, which takes so many bytes at most. -/
def newChannel (limit : Option Nat) : Eval Nat := do
  let n := (← world).channels.size
  changeWorld fun w => { w with channels := w.channels.push { limit } }
  return n

/-- What was written to a channel. -/
def written (i : Nat) : Eval ByteArray := do
  return (((← world).channels[i]?).getD {}).bytes

/-- The streams with one changed. -/
def putStream (n : Nat) (s : Stream) (ss : List (Nat × Stream)) : List (Nat × Stream) :=
  (n, s) :: ss.filter (·.1 ≠ n)

/-- Makes a numbered stream lead elsewhere. -/
def setStream (n : Nat) (s : Stream) : Eval Unit :=
  changeShell fun sh => { sh with streams := putStream n s sh.streams }

/-- Opens a file as a new stream. -/
def openStream (path : List String) (atEnd : Bool) : Eval Stream := do
  let n := (← world).opened.size
  changeWorld fun w => { w with opened := w.opened.push { path, atEnd } }
  return .file n

/-! ## Variables -/

/-- The variables with one changed. -/
def putVariable (name : String) (v : Variable) (vs : List (String × Variable)) :
    List (String × Variable) :=
  (name, v) :: vs.filter (·.1 ≠ name)

/-- The value of a variable. -/
def valueOf (name : String) : Eval (Option String) :=
  return ((← shell).bindings.lookup name).bind Variable.value

/-- The variable of a name; one that there is not has no value. -/
def variableOf (name : String) : Eval Variable :=
  return ((← shell).bindings.lookup name).getD { value := none }

/-- Reports a change of a variable that stays as it is. -/
def refuseFixed (name : String) : Eval Unit := do
  if (← variableOf name).fixed then fatal (name ++ ": is read only")

/-- Sets a variable, whatever it is. -/
def putValue (name value : String) : Eval Unit :=
  changeShell fun s =>
    let v := (s.bindings.lookup name).getD { value := none }
    let exported := v.exported || s.settings.contains .allexport
    { s with bindings := putVariable name { v with value := some value, exported } s.bindings }

/-- The number that a text writes without a sign. -/
def naturalNumber? (s : String) : Option Nat :=
  let cs := s.toList
  if cs.isEmpty || !cs.all Char.isDigit then none
  else some (cs.foldl (fun n c => 10 * n + (c.toNat - 48)) 0)

/-- Sets a variable. Setting the number of the next option lets options be read from there. -/
def setVariable (name value : String) : Eval Unit := do
  refuseFixed name
  putValue name value
  if name = "OPTIND" then
    match naturalNumber? value with
    | some n =>
      changeShell fun s => { s with optionNext := max n 1, optionPlace := none }
    | none => fatal ("Illegal number: " ++ value)

/-- Takes a variable away. -/
def unsetVariable (name : String) : Eval Unit := do
  refuseFixed name
  changeShell fun s => { s with bindings := s.bindings.filter (·.1 ≠ name) }

/-- Makes a variable what it was before. -/
def restoreVariable (name : String) (before : Option Variable) : Eval Unit :=
  changeShell fun s =>
    { s with
      bindings := match before with
        | some v => putVariable name v s.bindings
        | none => s.bindings.filter (·.1 ≠ name) }

/-- Variables by their names, in order. -/
def sortedVariables (s : Session) : List (String × Variable) :=
  s.bindings.mergeSort fun a b => a.1 ≤ b.1

end Assay.Shell
