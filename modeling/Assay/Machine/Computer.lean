import Assay.Host.Plan
import Assay.Machine.Naming
import Assay.Shell.Run
import Assay.Workspace.Registry

/-!
# A computer

A tree of files, a working directory, an environment and a registry of workspaces. A computer
answers every request of a plan: it is a handler, and plans can be carried out on it without any
other host.
-/

namespace Assay.Machine

open Host

/-- What a plan is carried out on. -/
structure Computer where
  root : Tree
  /-- The names that lead from the root to the working directory. -/
  directory : List String := []
  environment : List (String × String) := []
  registry : Registry := []
  /-- The number of the next new name. -/
  nextName : Nat := 0

namespace Computer

/-- The devices, and the links to the streams of whoever asks. -/
def devices : List (String × Tree) :=
  [("null", .device .null), ("zero", .device .zero), ("full", .device .full),
    ("random", .device .random), ("urandom", .device .random), ("tty", .device .terminal),
    ("fd", .link "/proc/self/fd"), ("stdin", .link "/proc/self/fd/0"),
    ("stdout", .link "/proc/self/fd/1"), ("stderr", .link "/proc/self/fd/2")]

/-- The streams of whoever asks, by their numbers. -/
def streamDevices : List (String × Tree) :=
  (List.range 10).map fun n => (toString n, .device (.stream n))

/-- The tree of a computer as it comes: the utilities, the devices, and directories to work in. -/
def standardTree : Tree :=
  .dir 0o755 [
    ("bin", .link "usr/bin"),
    ("dev", .dir 0o755 devices),
    ("etc", .dir 0o755 []),
    ("home", .dir 0o755 []),
    ("lib", .link "usr/lib"),
    ("proc", .dir 0o555 [("self", .dir 0o555 [("fd", .dir 0o500 streamDevices)])]),
    ("root", .dir 0o700 []),
    ("sbin", .link "usr/sbin"),
    ("tmp", .dir 0o1777 []),
    ("usr", .dir 0o755 [
      ("bin", .dir 0o755 (Shell.utilityNames.map fun n => (n, Shell.utilityFile n))),
      ("lib", .dir 0o755 []),
      ("local", .dir 0o755 [("bin", .dir 0o755 []), ("sbin", .dir 0o755 [])]),
      ("sbin", .dir 0o755 []),
      ("share", .dir 0o755 [])]),
    ("var", .dir 0o755 [("tmp", .dir 0o1777 [])])]

/-- A computer as it comes. -/
def standard : Computer where
  root := standardTree
  environment := [("PATH", Shell.defaultPath), ("HOME", "/root")]

/-- The working directory as a path. -/
def workingDir (c : Computer) : Path :=
  ⟨"/" ++ "/".intercalate c.directory⟩

/-! ## Command lines -/

/-- The most bytes of an argument of a program. -/
def maxArgument : Nat := 131071

/-- The nanoseconds of a millisecond. -/
def millisecond : Nat := 1000000

/-- The directory in which a command line runs. -/
def directoryFor (c : Computer) (directory : Option Path) : Except Fault (List String) :=
  match directory with
  | none => .ok c.directory
  | some p =>
    match find c.root c.directory true p.text with
    | .error fault => .error fault
    | .ok (names, .dir mode _) => if maySearch mode then .ok names else .error .denied
    | .ok _ => .error .notDirectory

/-- The state in which a command line is run: standard input is empty, and the two outputs go to
channels. -/
def shellState (c : Computer) (directory : List String) (limit : Option Nat) : Shell.State where
  shell := {
    name := "sh"
    bindings := c.environment.map fun (name, value) =>
      (name, { value := some value, exported := true })
    process := 1000
    self := 1000
    directory
    streams := [(0, .null), (1, .channel 0), (2, .channel 1)] }
  world := {
    root := c.root
    deadline := limit.map (· * millisecond)
    nextProcess := 1001
    channels := #[{}, {}] }

/-- How a command line ended that stopped in a state. -/
def endingOf (process : Nat) (result : Except Shell.Stop Nat) (s : Shell.State) : Ending :=
  let stream (i : Nat) : ByteArray := ((s.world.channels[i]?).getD {}).bytes
  let exited (code : Option Int) : Ending := .exited code (stream 0) (stream 1)
  match result with
  | .ok n => exited (some n)
  | .error (.exit n) => exited (some n)
  | .error (.leaveFunction n) => exited (some n)
  | .error (.signal p _) => exited (if p = process then none else some 0)
  | .error .unread => exited none
  | .error .fault => exited (some 2)
  | .error .timeOver | .error .starved => .timedOut
  | .error (.leaveLoops _) | .error (.nextRound _) => exited (some 0)

/-- Calls the shell on the search path with a command line. -/
def callShell (line : String) : Shell.Eval (Except Fault Nat) := do
  match ← Shell.findProgram "sh" ["-c", line] with
  | .error fault => return .error fault
  | .ok call => .ok <$> Shell.runProgram call [0, 1]

/-- Runs a command line. -/
def runLine (c : Computer) (line : String) (directory : Option Path) (limit : Option Nat) :
    Finished × Computer :=
  match c.directoryFor directory with
  | .error fault => ({ ending := .refused fault, took := 0 }, c)
  | .ok names =>
    if line.toList.contains '\x00' then ({ ending := .refused .zeroInLine, took := 0 }, c)
    else if line.utf8ByteSize > maxArgument then
      ({ ending := .refused .argumentsTooLong, took := 0 }, c)
    else
      let s := c.shellState names limit
      let (result, s') := (callShell line).run.run s
      let finish (ending : Ending) : Finished × Computer :=
        ({ ending, took := s'.world.clock }, { c with root := s'.world.root })
      match result with
      | .ok (.error fault) => finish (.refused fault)
      | .ok (.ok n) => finish (endingOf s.shell.process (.ok n) s')
      | .error stop => finish (endingOf s.shell.process (.error stop) s')

/-! ## New names -/

/-- Makes a directory with a new name, with so many attempts at most. -/
def makeTemp (c : Computer) (dir : Path) (t : Template) :
    (attempts : Nat) → Except Fault Path × Computer
  | 0 => (.error .alreadyThere, c)
  | attempts + 1 =>
    let n := c.nextName + attempts
    let name := String.ofList (t.front ++ numbered t.random n ++ t.back)
    let path := dir.child name
    match makeDir c.root c.directory dirMode path.text with
    | .ok root => (.ok path, { c with root, nextName := n + 1 })
    | .error .alreadyThere => makeTemp c dir t attempts
    | .error fault => (.error fault, c)

/-- How often a new name is tried. -/
def maxAttempts : Nat := 1000

/-! ## Requests -/

/-- A reply to a change, and the computer with the tree that is left. -/
def changed (c : Computer) (result : Tree × Option Fault) : Except Fault Unit × Computer :=
  (match result.2 with
    | none => .ok ()
    | some fault => .error fault, { c with root := result.1 })

/-- A reply to a change that happens or not. -/
def changedOr (c : Computer) (result : Except Fault Tree) : Except Fault Unit × Computer :=
  match result with
  | .ok root => (.ok (), { c with root })
  | .error fault => (.error fault, c)

/-- Answers a request. -/
def answer : Plan.Handler Computer
  | .run line directory limit, c => c.runLine line directory limit
  | .workingDir, c => (c.workingDir, c)
  | .stat path, c => (stat c.root c.directory path.text, c)
  | .list path, c => (list c.root c.directory path.text, c)
  | .readText path, c => (readText c.root c.directory path.text, c)
  | .writeText path text, c =>
    c.changedOr (write c.root c.directory path.text (Text.encode text))
  | .createDirs path, c => c.changed (createDirs c.root c.directory path)
  | .removeAll path, c => c.changed (removeAll c.root c.directory path.text)
  | .setPermission path mode, c => c.changed (setPermission c.root c.directory path.text mode)
  | .makeTemp root template, c =>
    c.makeTemp (c.workingDir.join root) template maxAttempts
  | .register path, c => ((), { c with registry := c.registry.insert path })
  | .unregister path, c => ((), { c with registry := c.registry.erase path })
  | .takeRegistered root, c =>
    let (taken, left) := c.registry.take root
    (taken, { c with registry := left })

/-- Carries a plan out. -/
def perform {α : Type} (c : Computer) (plan : Plan α) : α × Computer :=
  plan.run answer c

end Computer

end Assay.Machine
