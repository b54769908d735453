import Assay.Cli.Run
import Assay.Machine.Computer
import Assay.Machine.Difference
import Assay.Machine.Survey

/-!
# The program

The words behind the program's name say what to do. It is done on a computer of its own: the working
directory is copied into its tree, the plan of the command is carried out there, and what changed in
that directory is copied back. So commands find the computer's utilities and the scripts that lie in
the directory, and no others.
-/

namespace Assay

open Machine

/-- How the program is used. -/
def usage : String :=
  "Usage: " ++ Cli.programName ++
    " [--log-level <LEVEL>] <run|validate|init|schema|paths> [OPTIONS]"

/-- The bits of a file: scripts can be executed. -/
def modeOf (contents : ByteArray) : Nat :=
  if (contents.extract 0 2).toList = [0x23, 0x21] then 0o755 else fileMode

/-- The deepest level of directories that is copied. -/
def maxLevels : Nat := 64

/-- The entries of a directory of the host, up to some level. -/
def hostEntries : (levels : Nat) → (entries : Array IO.FS.DirEntry) → IO Entries
  | 0, _ => return []
  | levels + 1, entries => do
    let mut found : Entries := []
    for e in entries do
      let part ← if ← e.path.isDir then
          pure (Tree.dir dirMode (← hostEntries levels (← e.path.readDir)))
        else do
          let contents ← IO.FS.readBinFile e.path
          pure (Tree.file (modeOf contents) contents)
      found := (e.fileName, part) :: found
    return found

/-- Makes a change in the working directory of the host. -/
def makeChange : Change → IO Unit
  | .removeFile path => IO.FS.removeFile path
  | .removeDir path => IO.FS.removeDir path
  | .makeDir path => IO.FS.createDirAll path
  | .writeFile path contents => IO.FS.writeBinFile path contents

/-- A computer with entries in the directory at a path, which is its working directory. -/
def computerAt (path : String) (entries : Entries) : Computer :=
  let c := Computer.standard
  let directory := names path
  let (root, _) := createDirs c.root [] ⟨path⟩
  { c with root := root.replace directory (.dir dirMode entries), directory }

/-- What is seen in the working directory of a computer. -/
def surveyHere (c : Computer) : List (String × Tree) :=
  surveyAt c.root c.directory "."

/-- Does what the words say, and prints what comes of it. -/
def runProgram (words : List String) : IO UInt32 := do
  match Cli.plan? {} words with
  | none =>
    IO.eprintln usage
    return 2
  | some plan =>
    let here ← IO.currentDir
    let before := computerAt here.toString (← hostEntries maxLevels (← here.readDir))
    let (printed, after) := before.perform plan
    for change in changes (surveyHere before) (surveyHere after) do makeChange change
    IO.print printed.out
    IO.eprint printed.err
    return if printed.success then 0 else 1

end Assay

/-- The program. -/
def main (args : List String) : IO UInt32 :=
  Assay.runProgram args
