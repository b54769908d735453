import Assay.Case.Basic
import Assay.Host.Fault
import Assay.Path
import Assay.Workspace.Template

/-!
# Plans

Whatever needs the host is a plan: either a result, or a request to the host with what to do on each
reply. A plan does nothing by itself. A handler carries it out, answering each request from a state
that it keeps; a statement about all handlers is one about every behaviour of commands and file
system.

Plans that run side by side are interleaved by a schedule, a list of numbers that says which of them
makes its next request. When the schedule ends they finish one after the other, so a statement about
all schedules is one about every interleaving.
-/

namespace Assay.Host

/-- What stands at a path, links followed. -/
structure Stat where
  isDir : Bool
  /-- Whether it is a regular file. -/
  isFile : Bool
  size : Nat
deriving DecidableEq

/-- How a command line ended. -/
inductive Ending where
  /-- The shell could not be started. -/
  | refused (reason : Fault)
  /-- It was ended because its time was over. -/
  | timedOut
  /-- It ended, with an exit code unless a signal ended it, after writing to its two streams. -/
  | exited (code : Option Int) (stdout stderr : ByteArray)

/-- How a command line ended, and how many nanoseconds it took. -/
structure Finished where
  ending : Ending
  took : Nat

/-- What the host can be asked for. -/
inductive Request where
  /-- Runs a command line through the shell, in a directory and for so many milliseconds at most. -/
  | run (line : String) (directory : Option Path) (limit : Option Nat)
  /-- The working directory. -/
  | workingDir
  /-- What stands at a path. -/
  | stat (path : Path)
  /-- The names in a directory. -/
  | list (path : Path)
  /-- The text of a file. -/
  | readText (path : Path)
  /-- Writes a file, in the place of what it held. -/
  | writeText (path : Path) (text : String)
  /-- Makes a directory and those above it that are missing. -/
  | createDirs (path : Path)
  /-- Removes a directory with all that is in it. -/
  | removeAll (path : Path)
  /-- Sets permissions throughout a directory tree. -/
  | setPermission (path : Path) (mode : Permission)
  /-- Makes a directory with a new name of a template's form. -/
  | makeTemp (root : Path) (template : Template)
  /-- Enters a workspace into the registry. -/
  | register (path : Path)
  /-- Strikes a workspace off the registry. -/
  | unregister (path : Path)
  /-- Takes the workspaces below a directory, or all, out of the registry. -/
  | takeRegistered (root : Option Path)
deriving DecidableEq

/-- What the host replies to a request. -/
abbrev Reply : Request → Type
  | .run .. => Finished
  | .workingDir => Path
  | .stat _ => Except Fault Stat
  | .list _ => Except Fault (List String)
  | .readText _ => Except Fault String
  | .writeText .. | .createDirs _ | .removeAll _ | .setPermission .. => Except Fault Unit
  | .makeTemp .. => Except Fault Path
  | .register _ | .unregister _ => Unit
  | .takeRegistered _ => List Path

/-- The time that a reply took to come, as far as a command was run for it. -/
def elapsed : (r : Request) → Reply r → Nat
  | .run .., f => f.took
  | _, _ => 0

/-- A result, or a request with what to do on each reply. -/
inductive Plan (α : Type) where
  | done (a : α)
  | ask (r : Request) (next : Reply r → Plan α)

namespace Plan

variable {α β : Type}

/-- One plan and then another that depends on the result. -/
def bind : Plan α → (α → Plan β) → Plan β
  | .done a, f => f a
  | .ask r next, f => .ask r fun reply => (next reply).bind f

instance : Monad Plan where
  pure := .done
  bind := bind

/-- The plan of a single request. -/
def request (r : Request) : Plan (Reply r) :=
  .ask r .done

/-- A way to answer requests from a state. -/
abbrev Handler (σ : Type) := (r : Request) → σ → Reply r × σ

/-- Carries a plan out. -/
def run {σ : Type} (handle : Handler σ) : Plan α → σ → α × σ
  | .done a, s => (a, s)
  | .ask r next, s => (next (handle r s).1).run handle (handle r s).2

/-- The plan that also results in the time its requests took. -/
def timedFrom (time : Nat) : Plan α → Plan (α × Nat)
  | .done a => .done (a, time)
  | .ask r next => .ask r fun reply => (next reply).timedFrom (time + elapsed r reply)

/-- The plan that also results in the time its requests took. -/
def timed (p : Plan α) : Plan (α × Nat) :=
  p.timedFrom 0

/-- Plans one after the other. -/
def inTurn : List (Plan α) → Plan (List α)
  | [] => .done []
  | p :: rest => p.bind fun a => (inTurn rest).bind fun as => .done (a :: as)

/-- Plans side by side, in the order of a schedule. A number that names no unfinished plan is left
out. The results are in the order of the plans. -/
def sideBySide : (schedule : List Nat) → List (Plan α) → Plan (List α)
  | [], plans => inTurn plans
  | i :: schedule, plans =>
    match plans[i]? with
    | some (.ask r next) => .ask r fun reply => sideBySide schedule (plans.set i (next reply))
    | _ => sideBySide schedule plans

end Plan

end Assay.Host
