import Assay.Utility.Basic

/-!
# Changing the tree

What utilities that change files have in common: a change is carried out or refused, and a refusal
is reported with what could not be done and why.
-/

namespace Assay.Shell

open Machine Host

/-- Changes the tree, or finds out why that is not possible. -/
def changeTree (change : Tree → List String → Except Fault Tree) : Eval (Option Fault) := do
  let s ← get
  match change s.world.root s.shell.directory with
  | .ok root =>
    changeWorld fun w => { w with root }
    return none
  | .error fault => return some fault

/-- Changes the tree, also if the change fails on its way. -/
def changePartly (change : Tree → List String → Tree × Option Fault) : Eval (Option Fault) := do
  let s ← get
  let (root, fault) := change s.world.root s.shell.directory
  changeWorld fun w => { w with root }
  return fault

/-- Reports a fault: what could not be done, with which file and why. -/
def cannot (utility what path : String) (fault : Fault) : Eval Bool := do
  complain (utility ++ ": " ++ what ++ " " ++ quotedName path ++ ": " ++ fault.words)
  return false

/-- Reports a change that failed. -/
def reportChange (utility what path : String) (change : Eval (Option Fault)) : Eval Bool := do
  match ← change with
  | none => return true
  | some fault => cannot utility what path fault

/-- Refuses a call without operands. -/
def withOperands (utility missing : String) (o : Options) (body : Eval Nat) : Eval Nat := do
  if o.operands.isEmpty then
    misused utility missing
    return 1
  else body

/-- The bits of which new files and directories get those that are not masked. -/
def maskedMode (bits : Nat) : Eval Nat := do
  return bits &&& (0o7777 ^^^ (← shell).mask)

/-- Opens a path to be written. -/
def openForWriting (truncate : Bool) (path : String) : Eval (Except Fault Target) := do
  let mode ← maskedMode 0o666
  let s ← get
  match openToWrite s.world.root s.shell.directory mode truncate path with
  | .ok (target, root) =>
    changeWorld fun w => { w with root }
    return .ok target
  | .error fault => return .error fault

/-- Appends to what was opened. -/
def writeToTarget (target : Target) (bytes : ByteArray) : Eval (Option Fault) := do
  match target with
  | .device (.stream n) => writeTo (← streamOf n) bytes
  | target => changeTree fun root _ => appendTo root target bytes

/-- Writes a file, in the place of what it held. -/
def writeFile (path : String) (bytes : ByteArray) : Eval (Option Fault) := do
  match ← openForWriting true path with
  | .ok target => writeToTarget target bytes
  | .error fault => return some fault

/-- The part of the tree at a path, and the names that lead to it. -/
def partOf (follow : Bool) (path : String) : Eval (Except Fault (List String × Tree)) := do
  let s ← get
  return find s.world.root s.shell.directory follow path

/-- Whether a directory stands at a path. -/
def isDirectory (path : String) : Eval Bool := do
  let s ← get
  return isDirAt s.world.root s.shell.directory path

/-- A name in a directory. -/
def childPath (directory name : String) : String :=
  if directory.endsWith "/" then directory ++ name else directory ++ "/" ++ name

/-- `tee` prints its input and writes it to its operands. -/
def tee : Utility :=
  withOptions "tee" "aip" "" 1
    (fun o => do
      match ← readFrom 0 none with
      | .error fault =>
        complain ("tee: read error: " ++ fault.words)
        return 1
      | .ok bytes =>
        let status ← forOperands (fun path => do
          let written ← match ← openForWriting (!o.has 'a') path with
            | .ok target => writeToTarget target bytes
            | .error fault => pure (some fault)
          match written with
          | none => return true
          | some fault =>
            unreadable "tee" path fault
            return false) o.operands
        write 1 bytes
        return status)
    [("append", 'a'), ("ignore-interrupts", 'i')]

end Assay.Shell
