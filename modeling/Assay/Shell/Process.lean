import Assay.Shell.Signal
import Assay.Utility.Basic

/-!
# Processes

A process runs with a copy of the shell that started it, which is dropped when it ends; the world it
changes is the same. It ends with a status or by a signal. What is to stop all processes goes on to
the ones around it.
-/

namespace Assay.Shell

open Host

/-- How a process ended: its status, and the signal that ended it. -/
structure Finish where
  status : Nat
  signal : Option Nat := none

/-- The status of a process that a signal ended. -/
def Finish.ofSignal (n : Nat) : Finish :=
  ⟨128 + n, some n⟩

/-- The signal of a process that writes what nobody reads. -/
def unreadSignal : Nat := 13

/-- The signal that a process gets when one that it started has ended. -/
def childSignal : Nat := 17

/-- How a process ends that stopped as it did. -/
def finishOf (result : Except Stop Unit) : Eval Finish := do
  let s ← shell
  match result with
  | .ok _ => return ⟨s.status, none⟩
  | .error (.exit n) => return ⟨n, none⟩
  | .error (.leaveFunction n) => return ⟨n, none⟩
  | .error (.leaveLoops _) | .error (.nextRound _) => return ⟨0, none⟩
  | .error .fault => return ⟨2, none⟩
  | .error .unread =>
    changeWorld fun w => { w with hungry := false }
    return .ofSignal unreadSignal
  | .error (.signal p n) => if p = s.self then return .ofSignal n else throw (.signal p n)
  | .error .timeOver => throw .timeOver
  | .error .starved => throw .starved

/-- The shell that a new process runs with. -/
def Session.child (s : Session) (process : Nat) : Session :=
  { s with
    self := process
    ancestors := (s.self, s.traps) :: s.ancestors
    traps := ignoredOnly s.traps
    trapStatus := none }

/-- Tells a shell that a process has ended which it started. -/
def noticeChild : Eval Unit := do
  let s ← shell
  if (s.traps.lookup childSignal).isSome then
    changeWorld fun w => { w with signals := w.signals ++ [(s.self, childSignal)] }

/-- Runs something as a process of its own; `close` says what is done when it ends. -/
def asChild (close : Except Stop Unit → Eval Finish) (body : Eval Unit) : Eval Finish := do
  let saved ← shell
  pass startTime
  let n ← newProcess
  changeShell (·.child n)
  let result ← attempt do
    let result ← attempt body
    close result
  changeShell fun _ => saved
  match result with
  | .ok finish =>
    noticeChild
    return finish
  | .error stop => throw stop

/-- The status of a process that was waited for. Most signals that ended it are told. -/
def announce (f : Finish) : Eval Nat := do
  if let some words := f.signal.bind signalWords then complain words
  return f.status

/-- Sets the status. -/
def setStatus (n : Nat) : Eval Unit :=
  changeShell fun s => { s with status := n }

/-- Names in the order of a table with so many places: by the places that their characters lead to,
and in the order in which they came at one place. -/
def inTableOrder (places : Nat) (names : List String) : List String :=
  let place (n : String) : Nat :=
    let octets := (textBytes n).map UInt8.toNat
    (octets.foldl (· + ·) (16 * octets.headD 0)) % 0x8000 % places
  names.mergeSort fun a b => place a ≤ place b

/-- What a process gets that is no shell: the variables that are passed on, in the order in which a
shell keeps them. -/
def Session.environment (s : Session) : List (String × Variable) :=
  let passed := s.bindings.filter fun b => b.2.exported && b.2.value.isSome
  let sorted := inTableOrder 39 (passed.reverse.map Prod.fst)
  sorted.filterMap fun name => (passed.lookup name).map fun v => (name, { v with fixed := false })

/-- How utilities run other programs. -/
structure Launcher where
  /-- Runs a program as a process of its own, which gets a signal after so many nanoseconds. -/
  start : (limit : Option (Nat × Nat)) → (name : String) → (args : List String) →
    Eval (Except Fault Finish)
  /-- Puts a program in the place of the process. -/
  become : (name : String) → (args : List String) → Eval (Except Fault Nat)

/-- The status of a program that a utility cannot run. -/
def launchStatus (f : Fault) : Nat :=
  match f with
  | .missing | .notDirectory => 127
  | _ => 126

/-- Sends a signal to this process after so many nanoseconds. -/
def alarm (limit : Option (Nat × Nat)) : Eval Unit := do
  if let some (nanoseconds, number) := limit then
    let process := (← shell).self
    changeWorld fun w =>
      { w with scheduled := w.scheduled ++ [⟨w.clock + nanoseconds, process, number⟩] }

end Assay.Shell
