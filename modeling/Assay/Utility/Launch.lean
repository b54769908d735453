import Assay.Shell.Process
import Assay.Utility.Name

/-!
# Running programs

Utilities that run other programs: with other variables, with a limit of time, or with arguments
that are read.
-/

namespace Assay.Shell

open Host

/-- Runs a program in the place of a utility, or says why that is not possible. -/
def becomeProgram (launcher : Launcher) (utility name : String) (args : List String) :
    Eval Nat := do
  match ← launcher.become name args with
  | .ok status => return status
  | .error fault =>
    complain (utility ++ ": " ++ quotedName name ++ ": " ++ fault.words)
    return launchStatus fault

/-- Sets a variable for programs; new ones come last. -/
def setPassed (name value : String) : Eval Unit :=
  changeShell fun s =>
    let v : Variable := { value := some value, exported := true }
    { s with bindings :=
        if (s.bindings.lookup name).isSome then
          s.bindings.map fun b => if b.1 = name then (name, v) else b
        else s.bindings ++ [(name, v)] }

/-- Sets variables as the first arguments of `env` say, and runs the program that the others
name. -/
def withPassed (launcher : Launcher) (finish : String) : List String → Eval Nat
  | [] => do
    for (name, v) in (← shell).bindings do
      if v.exported then print (name ++ "=" ++ v.value.getD "" ++ finish)
    return 0
  | arg :: args => do
    if arg.toList.contains '=' then
      let name := arg.toList.takeWhile (· ≠ '=')
      setPassed (String.ofList name) (String.ofList (arg.toList.drop (name.length + 1)))
      withPassed launcher finish args
    else becomeProgram launcher "env" arg args

/-- The arguments up to the first that is no option, and the others. -/
def splitOperands (valued : String) : List String → List String × List String
  | [] => ([], [])
  | arg :: rest =>
    if arg = "--" then ([], rest)
    else if arg.startsWith "-" && arg ≠ "-" then
      let wants := !arg.startsWith "--" && arg.length = 2 &&
        (arg.toList.getLast?).any valued.toList.contains
      match wants, rest with
      | true, value :: rest =>
        let (front, behind) := splitOperands valued rest
        (arg :: value :: front, behind)
      | _, rest =>
        let (front, behind) := splitOperands valued rest
        (arg :: front, behind)
    else ([], arg :: rest)

/-- `env` runs a program with other variables, or prints those that there are. -/
def env (launcher : Launcher) : Utility := fun args => do
  let (front, behind) := splitOperands "uCS" args
  withOptions "env" "i0v" "uCS" 125
    (fun o => do
      let empties := o.has 'i' || behind.head? = some "-"
      let behind := if behind.head? = some "-" then behind.tail else behind
      if empties then changeShell fun s => { s with bindings := [] }
      for (letter, name) in o.letters do
        if letter = 'u' then
          changeShell fun s => { s with bindings := s.bindings.filter (·.1 ≠ name) }
      withPassed launcher (if o.has '0' then "\x00" else "\n") behind)
    [("ignore-environment", 'i'), ("unset", 'u'), ("null", '0')] front

/-- `nohup` and `nice` run a program. -/
def runsProgram (name valued : String) (launcher : Launcher) : Utility := fun args => do
  let (_, behind) := splitOperands valued args
  match behind with
  | program :: args => becomeProgram launcher name program args
  | [] =>
    misused name "missing operand"
    return 125

/-- `timeout` runs a program that gets a signal if it takes too long. -/
def timeout (launcher : Launcher) : Utility := fun args => do
  let (front, behind) := splitOperands "ks" args
  withOptions "timeout" "fpv" "ks" 125
    (fun o => do
      match behind with
      | length :: name :: args =>
        match timeLength? length, signal? 1 ((o.value? 's').getD "TERM") with
        | none, _ =>
          misused "timeout" ("invalid time interval " ++ quotedName length)
          return 125
        | _, none =>
          misused "timeout" (quotedName ((o.value? 's').getD "") ++ ": invalid signal")
          return 125
        | some nanoseconds, some number =>
          let begins := (← world).clock
          let limit := if nanoseconds = 0 then none else some (nanoseconds, number)
          match ← launcher.start limit name args with
          | .error fault =>
            complain ("timeout: failed to run command " ++ quotedName name ++ ": " ++ fault.words)
            return launchStatus fault
          | .ok finish =>
            let late := limit.isSome && begins + nanoseconds ≤ (← world).clock
            return if late && !o.has 'p' then (if number = 9 then 137 else 124) else finish.status
      | _ =>
        misused "timeout" "missing operand"
        return 125)
    [("signal", 's'), ("kill-after", 'k'), ("foreground", 'f'), ("preserve-status", 'p')] front

end Assay.Shell
