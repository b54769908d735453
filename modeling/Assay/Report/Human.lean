import Assay.Report.Basic
import Assay.Report.Duration

/-!
# Reports to be read

A line for each test with a mark for how it went, the failures below it, and the counts at the end.
What is wrong with a file or with the suite is told apart, on the other stream.
-/

namespace Assay.Report

open Suite

/-- The name of a test with its id. -/
def label (r : TestResult) : String :=
  match r.id with
  | some id => r.name ++ " [#" ++ id ++ "]"
  | none => r.name

/-- The lines of a test. The reason why it was skipped is told if `verbose` holds. -/
def testLines (verbose : Bool) (r : TestResult) : List String :=
  match r.skipped with
  | some reason =>
    ["  ○ " ++ label r ++ (if verbose then " (skipped: " ++ reason ++ ")" else " (skipped)")]
  | none =>
    let time := " (" ++ durationText r.duration ++ ")"
    if r.passed then ["  ✓ " ++ label r ++ time]
    else ("  ✗ " ++ label r ++ time) :: r.failures.map fun f => "    " ++ f.message

/-- The lines of a file. -/
def fileLines (verbose : Bool) (f : FileReport) : List String :=
  match f.result with
  | .ok results => "" :: f.path.text :: results.flatMap (testLines verbose)
  | .error _ => []

/-- The counts in words. -/
def Totals.text (t : Totals) : String :=
  toString t.passed ++ " passed, " ++ toString t.failed ++ " failed, " ++ toString t.skipped ++
    " skipped"

/-- The lines of a suite. -/
def humanLines (verbose : Bool) (r : SuiteReport) : List String :=
  r.files.flatMap (fileLines verbose) ++ ["", r.totals.text]

/-- What is wrong with the files and with the suite. -/
def troubleLines (r : SuiteReport) : List String :=
  r.files.filterMap (fun f => match f.result with
    | .ok _ => none
    | .error fault => some ("✗ Failed to load " ++ f.path.text ++ ": " ++ fault.message)) ++
  if r.teardown.isEmpty then []
  else ["Suite teardown failed: " ++ choresMessage r.teardown]

end Assay.Report
