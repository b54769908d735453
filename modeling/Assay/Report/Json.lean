import Assay.Json.Printer
import Assay.Report.Basic
import Assay.Report.Duration

/-!
# Reports in JSON

One entry for each case file, with its tests, and the counts. The keys of every object are in
ascending order. What is not there is left out.
-/

namespace Assay.Report

open Suite

/-- A test in JSON. -/
def testJson (r : TestResult) : Json :=
  .sorted (
    [("name", .str r.name),
      ("passed", .bool r.passed),
      ("duration", .float (seconds r.duration)),
      ("failures", .arr (r.failures.map fun f => .str f.message))] ++
    (r.id.map fun id => ("id", Json.str id)).toList ++
    (r.skipped.map fun reason => ("skipped", Json.str reason)).toList)

/-- A file in JSON. -/
def fileJson (f : FileReport) : Json :=
  .sorted [("file", .str f.path.text), ("tests", .arr (f.tests.map testJson))]

/-- A suite in JSON. -/
def suiteJson (r : SuiteReport) : Json :=
  let t := r.totals
  .sorted [
    ("passed", .ofNat t.passed),
    ("failed", .ofNat t.failed),
    ("skipped", .ofNat t.skipped),
    ("results", .arr (r.files.map fileJson))]

end Assay.Report
