import Assay.Banner
import Assay.Host.Invocation
import Assay.Host.Plan
import Assay.Text.Bytes

/-!
# Processes

Running an invocation through the shell of the host, and what the program asks of the host that
depends on its platform: looking up a program and setting permissions. Whatever the command does is
a result; only a shell that cannot be started and a time that is over are faults.
-/

namespace Assay.Host

open Plan

/-- Runs an invocation, in a directory and for so many milliseconds at most. -/
def runIn (i : Invocation) (directory : Option Path) (limit : Option Nat) :
    Plan (Except ProcessFault Outcome) := do
  let finished ← request (.run i.line directory limit)
  match finished.ending with
  | .refused reason => return .error (.spawn i.line reason)
  | .timedOut => return .error (.timeout i.line (limit.getD 0))
  | .exited code stdout stderr =>
    return .ok (.ofStreams code (Text.decodeLossy stdout) (Text.decodeLossy stderr))

/-- Runs an invocation in the working directory for as long as it takes. -/
def runHere (i : Invocation) : Plan (Except ProcessFault Outcome) :=
  runIn i none none

/-- The path of the program that the search path leads to. -/
def locateProgram? (program : String) : Plan (Option String) := do
  match ← runHere (Platform.posix.locate program) with
  | .ok outcome => return if outcome.success then firstLine? outcome.output else none
  | .error _ => return none

/-- The version that a compiler announces, or why there is none. -/
inductive DetectFault where
  | run (command : String) (fault : ProcessFault)
  | notFound (command output : String)

/-- A fault in words. -/
def DetectFault.message : DetectFault → String
  | .run command fault => "failed to run '" ++ command ++ "': " ++ fault.message
  | .notFound command output => "'" ++ command ++ "' printed no version: " ++ output

/-- Asks a compiler for its version. -/
def detectVersion (command : String) : Plan (Except DetectFault Semver.Version) := do
  match ← runHere ⟨command, ["--version"]⟩ with
  | .error fault => return .error (.run command fault)
  | .ok outcome =>
    match Banner.find outcome.output with
    | some v => return .ok v
    | none => return .error (.notFound command outcome.output)

/-- Why permissions cannot be set. -/
inductive PermissionFault where
  | refused (reason : Fault)
  | process (fault : ProcessFault)
  /-- The command that sets them failed. -/
  | failed (line : String) (outcome : Outcome)

/-- An exit code as a value that may be missing. -/
def optionalCode : Option Int → String
  | some n => "Some(" ++ toString n ++ ")"
  | none => "None"

/-- A fault in words. -/
def PermissionFault.message : PermissionFault → String
  | .refused reason => reason.message
  | .process fault => fault.message
  | .failed line outcome =>
    "`" ++ line ++ "` exited with " ++ optionalCode outcome.exitCode ++ ": " ++ outcome.output

/-- Runs invocations up to the first that fails. -/
def runEach : List Invocation → Plan (Except PermissionFault Unit)
  | [] => return .ok ()
  | i :: rest => do
    match ← runHere i with
    | .error fault => return .error (.process fault)
    | .ok outcome =>
      if outcome.success then runEach rest else return .error (.failed i.line outcome)

/-- Sets permissions throughout a directory tree, as the platform does it. -/
def applyPermission (platform : Platform) (path : Path) (mode : Permission) :
    Plan (Except PermissionFault Unit) :=
  match platform with
  | .posix => do
    match ← request (.setPermission path mode) with
    | .ok _ => return .ok ()
    | .error reason => return .error (.refused reason)
  | .windows => runEach (Platform.accessControl path mode)

/-- Sets permissions throughout a directory tree, and does not mind if that fails. -/
def setPermission (path : Path) (mode : Permission) : Plan Unit := do
  let _ ← applyPermission .posix path mode
  return ()

/-- Whether something stands at a path, links followed. -/
def pathExists (path : Path) : Plan Bool := do
  match ← request (.stat path) with
  | .ok _ => return true
  | .error _ => return false

/-- Whether a regular file stands at a path. -/
def isFile (path : Path) : Plan Bool := do
  match ← request (.stat path) with
  | .ok s => return s.isFile
  | .error _ => return false

/-- Whether a directory stands at a path. -/
def isDir (path : Path) : Plan Bool := do
  match ← request (.stat path) with
  | .ok s => return s.isDir
  | .error _ => return false

end Assay.Host
