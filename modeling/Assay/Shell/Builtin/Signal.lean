import Assay.Shell.Builtin.Basic
import Assay.Shell.Arithmetic

/-!
# Signals of a shell

`trap` says what a shell does at signals and at its exit, and `kill` sends signals: to the shell, to
the processes around it, and to commands in the background.
-/

namespace Assay.Shell

/-- The line that sets a reaction. -/
def trapLine (number : Nat) (r : Reaction) : String :=
  let script := match r with
    | .ignore => ""
    | .run script => script
  "trap -- " ++ scriptQuoted script ++ " " ++ signalName number

/-- Sets the reaction to signals, each of which may be none. -/
def setReactions (reaction : Option Reaction) : List String → Eval Nat
  | [] => return 0
  | name :: rest => do
    match signal? 0 name with
    | none =>
      complain ("trap: " ++ name ++ ": bad trap")
      return 1
    | some n =>
      changeShell fun s =>
        let others := s.traps.filter (·.1 ≠ n)
        { s with traps := match reaction with
          | some r => (n, r) :: others
          | none => others }
      setReactions reaction rest

/-- `trap` says what the shell does at signals; without arguments it tells. -/
def trap : Utility :=
  withLetters "" "" fun o => do
    match o.operands with
    | [] =>
      for (n, r) in (← shell).traps.mergeSort fun a b => a.1 ≤ b.1 do printLine (trapLine n r)
      return 0
    | [name] => setReactions none [name]
    | action :: names =>
      if ((naturalNumber? action).any (· ≤ lastSignal)) then setReactions none (action :: names)
      else if action = "-" then setReactions none names
      else setReactions (some (if action.isEmpty then .ignore else .run action)) names

/-! ## Sending -/

/-- The job that a text behind a percent sign names. -/
def namedJob? (w : World) (owner : Nat) (s : String) : Option Job :=
  let jobs := w.jobs.filter (·.owner = owner)
  match s.toList with
  | ['%'] | ['%', '%'] | ['%', '+'] => jobs.getLast?
  | ['%', '-'] => jobs.dropLast.getLast?
  | '%' :: rest =>
    match naturalNumber? (String.ofList rest) with
    | some n => if n = 0 then none else jobs[n - 1]?
    | none => jobs.find? fun _ => false
  | _ => none

/-- Sends a signal to a process; whether there is one. -/
def sendSignal (number process : Nat) : Eval Bool := do
  let s ← shell
  let w ← world
  if process = s.self then
    if endsProcess s.traps number then throw (.signal process number)
    else
      changeWorld fun w => { w with signals := w.signals ++ [(process, number)] }
      return true
  else if (s.ancestors.lookup process).isSome then
    changeWorld fun w => { w with signals := w.signals ++ [(process, number)] }
    return true
  else
    match w.job? process with
    | none => return false
    | some j =>
      if j.outcome.isSome then return false
      else if number = 0 then return true
      else
        changeWorld fun w =>
          { w with scheduled := w.scheduled ++ [⟨w.clock, process, number⟩] }
        changeJob process ({ · with ends := none, known := false })
        return true

/-- Sends a signal to processes, each of which is named by its number or is that of a job. -/
def sendSignals (number : Nat) : (targets : List String) → (status : Nat) → Eval Nat
  | [], status => return status
  | target :: rest, status => do
    let process : Option Nat ←
      if target.startsWith "%" then
        match namedJob? (← world) (← shell).self target with
        | some j => pure (some j.process)
        | none => fatal ("No such job: " ++ target)
      else match target.toList with
        | '-' :: digits =>
          let _ ← neededNumber (String.ofList digits)
          pure none
        | _ => some <$> neededNumber target
    let sent ← match process with
      | some p => sendSignal number p
      | none => pure false
    if !sent then complainAt "No such process\n"
    sendSignals number rest (if sent then status else 1)

/-- How `kill` is called. -/
def killUsage : String :=
  "Usage: kill [-s sigspec | -signum | -sigspec] [pid | job]... or\nkill -l [exitstatus]"

/-- Prints the names of signals, or of one of them. -/
def listSignals (targets : List String) : Eval Nat := do
  match targets with
  | [] =>
    printLine "0"
    for n in List.range lastSignal do printLine (signalName (n + 1))
    return 0
  | arg :: _ =>
    let n ← neededNumber arg
    let n := if n > 128 then n - 128 else n
    if 0 < n && n ≤ lastSignal then
      printLine (signalName n)
      return 0
    else fatal ("invalid signal number or exit status: " ++ arg)

/-- `kill` sends a signal to processes. -/
def kill : Utility := fun args => do
  match args with
  | [] => fatal killUsage
  | first :: rest =>
    let named := if first.startsWith "-" then
      signal? 1 (String.ofList (first.toList.drop 1)) else none
    match named with
    | some n => if rest.isEmpty then fatal killUsage else sendSignals n rest 0
    | none =>
      match shellOptions "l" "s" args with
      | .error message => fatal message
      | .ok o =>
        let number : Option Nat ← match o.value? 's' with
          | none => pure none
          | some name =>
            match signal? 1 name with
            | some n => pure (some n)
            | none => fatal ("invalid signal number or name: " ++ name)
        if o.has 'l' then
          if number.isSome then fatal killUsage else listSignals o.operands
        else if o.operands.isEmpty then fatal killUsage
        else sendSignals (number.getD 15) o.operands 0

end Assay.Shell
