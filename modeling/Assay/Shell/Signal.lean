import Assay.Shell.State

/-!
# Signals

The names of signals, the words for processes that they ended, and what a shell has told about them.
-/

namespace Assay.Shell

/-- The names of the first signals, from number zero on, which stands for the exit. -/
def firstSignals : List String :=
  ["EXIT", "HUP", "INT", "QUIT", "ILL", "TRAP", "ABRT", "BUS", "FPE", "KILL", "USR1", "SEGV",
    "USR2", "PIPE", "ALRM", "TERM", "16", "CHLD", "CONT", "STOP", "TSTP", "TTIN", "TTOU", "URG",
    "XCPU", "XFSZ", "VTALRM", "PROF", "WINCH", "IO", "PWR", "SYS", "32", "33", "RTMIN"]

/-- The number of the last signal. -/
def lastSignal : Nat := 64

/-- The name of a signal. -/
def signalName (n : Nat) : String :=
  match firstSignals[n]? with
  | some name => name
  | none =>
    if n ≤ 49 then "RTMIN+" ++ toString (n - 34)
    else if n < lastSignal then "RTMAX-" ++ toString (lastSignal - n)
    else "RTMAX"

/-- The number of a signal that a text names or writes, none smaller than a first one among
names. -/
def signal? (first : Nat) (s : String) : Option Nat :=
  match naturalNumber? s with
  | some n => if n ≤ lastSignal then some n else none
  | none =>
    (List.range (lastSignal + 1)).find? fun n => first ≤ n && signalName n = s.toUpper

/-- The words for a signal that ended a process; some are silent. -/
def signalWords (n : Nat) : Option String :=
  match n with
  | 1 => some "Hangup"
  | 2 | 13 => none
  | 3 => some "Quit"
  | 4 => some "Illegal instruction"
  | 5 => some "Trace/breakpoint trap"
  | 6 => some "Aborted"
  | 7 => some "Bus error"
  | 8 => some "Floating point exception"
  | 9 => some "Killed"
  | 10 => some "User defined signal 1"
  | 11 => some "Segmentation fault"
  | 12 => some "User defined signal 2"
  | 14 => some "Alarm clock"
  | 15 => some "Terminated"
  | 16 => some "Stack fault"
  | 24 => some "CPU time limit exceeded"
  | 25 => some "File size limit exceeded"
  | 26 => some "Virtual timer expired"
  | 27 => some "Profiling timer expired"
  | 29 => some "I/O possible"
  | 30 => some "Power failure"
  | 31 => some "Bad system call"
  | n =>
    if n ≥ 34 then some ("Real-time signal " ++ toString (n - 34))
    else some ("Unknown signal " ++ toString n)

/-- The reactions to signals that scripts do not react to. -/
def ignoredOnly (reactions : List (Nat × Reaction)) : List (Nat × Reaction) :=
  reactions.filter (·.2 = .ignore)

/-- Whether a shell runs a script at a signal or at its exit. -/
def Session.hasTraps (s : Session) : Bool :=
  s.traps.any (·.2 ≠ .ignore)

/-- The process that a job runs as. -/
def World.job? (w : World) (process : Nat) : Option Job :=
  w.jobs.find? (·.process = process)

/-- Changes a job. -/
def changeJob (process : Nat) (f : Job → Job) : Eval Unit :=
  changeWorld fun w =>
    { w with jobs := w.jobs.map fun j => if j.process = process then f j else j }

end Assay.Shell
