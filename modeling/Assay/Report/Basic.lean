import Assay.Suite.Run

/-!
# Reports

What a run of a suite comes to: what came of each case file, in the order of their paths, and
whether the suite could be tidied up. Every result is counted once: as skipped, as passed or as
failed. A file that could not be loaded and a suite that could not be tidied up count as one failure
each.
-/

namespace Assay.Report

open Suite

/-- What came of a case file: its results, or why it could not be loaded. -/
structure FileReport where
  path : Path
  result : Except LoadFault (List TestResult)

/-- What came of a suite. -/
structure SuiteReport where
  files : List FileReport
  teardown : List ChoreFault := []

/-- The counts of results. -/
structure Totals where
  passed : Nat := 0
  failed : Nat := 0
  skipped : Nat := 0
deriving DecidableEq

namespace Totals

/-- The counts with one more result. -/
def add (t : Totals) (r : TestResult) : Totals :=
  if r.skipped.isSome then { t with skipped := t.skipped + 1 }
  else if r.passed then { t with passed := t.passed + 1 }
  else { t with failed := t.failed + 1 }

/-- The counts with those of a file. -/
def addFile (t : Totals) (f : FileReport) : Totals :=
  match f.result with
  | .ok results => results.foldl add t
  | .error _ => { t with failed := t.failed + 1 }

end Totals

/-- The results to be shown for a file; a file that could not be loaded shows as one failed test. -/
def FileReport.tests (f : FileReport) : List TestResult :=
  match f.result with
  | .ok results => results
  | .error fault => [.failed "<load>" (.load fault)]

/-- The time of all results of a file. -/
def FileReport.duration (f : FileReport) : Nat :=
  f.tests.foldl (fun ns r => ns + r.duration) 0

namespace SuiteReport

/-- The counts of a suite. -/
def totals (r : SuiteReport) : Totals :=
  let t := r.files.foldl Totals.addFile {}
  if r.teardown.isEmpty then t else { t with failed := t.failed + 1 }

/-- Whether anything failed. -/
def hasFailed (r : SuiteReport) : Bool :=
  r.totals.failed > 0

/-- The time of all results of a suite. -/
def duration (r : SuiteReport) : Nat :=
  r.files.foldl (fun ns f => ns + f.duration) 0

end SuiteReport

end Assay.Report
