import Assay.Case.Load
import Assay.Regex.Search
import Assay.Suite.Context
import Assay.Workspace.Lifecycle

/-!
# Failures

What can go wrong in a step of preparation or tidying up, in an inspection, in a step of a test, and
in a test, each with its words. Texts that come from outside are quoted, so that a failure can be
read whatever was printed.
-/

namespace Assay.Suite

open Host

/-- An exit code in words. -/
def exitText : Option Int → String
  | some n => toString n
  | none => "no exit code"

/-- Why a step of preparation or tidying up fails. -/
inductive ChoreFault where
  | unresolved (u : Unresolved)
  /-- The directory of a file to be written cannot be made. -/
  | createParent (reason : Fault)
  | write (path : Path) (reason : Fault)
  | createDir (path : Path) (reason : Fault)
  | removeDir (path : Path) (reason : Fault)
  | run (line : String) (fault : ProcessFault)
  /-- The command did not exit with zero. -/
  | exited (line : String) (outcome : Outcome)

/-- A fault in words. -/
def ChoreFault.message : ChoreFault → String
  | .unresolved u => u.message
  | .createParent reason => "Failed to create directory: " ++ reason.message
  | .write path reason => "Failed to write " ++ path.text ++ ": " ++ reason.message
  | .createDir path reason =>
    "Failed to create directory " ++ path.text ++ ": " ++ reason.message
  | .removeDir path reason => "Failed to remove " ++ path.text ++ ": " ++ reason.message
  | .run line fault => "Failed to run " ++ line ++ ": " ++ fault.message
  | .exited line outcome =>
    "Command " ++ line ++ " failed with exit code " ++ exitText outcome.exitCode ++ ": " ++
      outcome.output

/-- Faults of several steps in words. -/
def choresMessage (faults : List ChoreFault) : String :=
  Text.join "; " (faults.map ChoreFault.message)

/-- Why a path cannot be inspected. -/
inductive InspectFault where
  | notFound (path : Path)
  | io (path : Path) (reason : Fault)

/-- A fault in words. -/
def InspectFault.message : InspectFault → String
  | .notFound path => "file/path " ++ path.text ++ " is not found"
  | .io path reason => "failed to inspect " ++ path.text ++ ": " ++ reason.message

/-- Why an output is not what is expected. -/
inductive Mismatch where
  | notEqual (expected got : String)
  | notContained (part got : String)
  | badPattern (pattern : String) (fault : Regex.Fault)
  | noMatch (pattern got : String)
  | aMatch (pattern found got : String)

/-- A mismatch in words. -/
def Mismatch.message : Mismatch → String
  | .notEqual expected got =>
    "output: expected exact match\n  expected: " ++ Text.quoted expected ++ "\n  got: " ++
      Text.quoted got
  | .notContained part got =>
    "output: expected to contain " ++ Text.quoted part ++ "\n  got: " ++ Text.quoted got
  | .badPattern pattern fault =>
    "output: invalid regex " ++ Text.quoted pattern ++ ": " ++ fault.message
  | .noMatch pattern got =>
    "output: expected to match regex " ++ Text.quoted pattern ++ "\n  got: " ++ Text.quoted got
  | .aMatch pattern found got =>
    "output: expected not to match regex " ++ Text.quoted pattern ++ ", found " ++
      Text.quoted found ++ "\n  got: " ++ Text.quoted got

/-- Why a step of a test fails. -/
inductive StepFailure where
  | unresolved (u : Unresolved)
  | setup (fault : ChoreFault)
  | teardown (faults : List ChoreFault)
  | execution (fault : ProcessFault)
  | exitCode (expected actual : Int) (output : String)
  /-- A code was expected of a process that a signal ended. -/
  | noExitCode (expected : Int)
  | output (m : Mismatch)
  | referenceExit (expected : Option Int) (outcome : Outcome)
  | reference (fault : ProcessFault)
  | existence (expected : Bool) (path : Path)
  | emptiness (expected : Bool) (path : Path)
  | inspection (fault : InspectFault)
  | contents (path : Path) (output : String)
  | unreadable (path : Path) (reason : Fault)

/-- A failure in words. -/
def StepFailure.message : StepFailure → String
  | .unresolved u => u.message
  | .setup fault => "Step setup failed: " ++ fault.message
  | .teardown faults => "Step teardown failed: " ++ choresMessage faults
  | .execution fault => "Command execution failed: " ++ fault.message
  | .exitCode expected actual printed =>
    "Exit code: expected " ++ toString expected ++ ", got " ++ toString actual ++
      "\n  output: " ++ Text.quoted printed
  | .noExitCode expected =>
    "Exit code: expected " ++ toString expected ++ ", but process did not terminate normally"
  | .output m => m.message
  | .referenceExit expected outcome =>
    "Reference exit code: expected " ++ exitText expected ++ ", got " ++
      exitText outcome.exitCode ++ "\n  output: " ++ Text.quoted outcome.output
  | .reference fault => "Reference execution failed: " ++ fault.message
  | .existence expected path =>
    (if expected then "Path should exist: " else "Path should not exist: ") ++ path.text
  | .emptiness expected path =>
    (if expected then "Path should be empty: " else "Path should be not empty: ") ++ path.text
  | .inspection fault => fault.message
  | .contents path printed =>
    "File " ++ path.text ++ " and command output do not contain one another\n  output: " ++
      Text.quoted printed
  | .unreadable path reason => "Failed to read " ++ path.text ++ ": " ++ reason.message

/-- Why a test fails, or what stands for a test in a report. -/
inductive Failure where
  | workspace (fault : WorkspaceFault)
  | setup (fault : ChoreFault)
  /-- A failure of a step, with the step's name where the test has several. -/
  | step (name : Option String) (failure : StepFailure)
  | teardown (faults : List ChoreFault)
  | fileSetup (fault : ChoreFault)
  | fileTeardown (faults : List ChoreFault)
  | load (fault : LoadFault)

/-- A failure in words. -/
def Failure.message : Failure → String
  | .workspace fault => "Workspace creation failed: " ++ fault.message
  | .setup fault => "Test setup failed: " ++ fault.message
  | .step none failure => failure.message
  | .step (some name) failure => "[" ++ name ++ "] " ++ failure.message
  | .teardown faults => "Test teardown failed: " ++ choresMessage faults
  | .fileSetup fault => "Setup failed: " ++ fault.message
  | .fileTeardown faults => "Teardown failed: " ++ choresMessage faults
  | .load fault => "Failed to load case file: " ++ fault.message

end Assay.Suite
