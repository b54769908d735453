import Assay.Report.Basic
import Assay.Report.Duration

/-!
# Reports in JUnit's XML

One suite for each case file and one case for each test, each with the numbers of what is in it. A
case that was skipped holds the reason, and one that failed holds its failures, the first of them
also as its message. Names and texts are escaped, so that whatever a command printed stays text.
-/

namespace Assay.Report

open Suite

/-- What a character is written as. -/
def escapeChar (c : Char) : List Char :=
  match c with
  | '&' => "&amp;".toList
  | '<' => "&lt;".toList
  | '>' => "&gt;".toList
  | '"' => "&quot;".toList
  | '\'' => "&apos;".toList
  | c => [c]

/-- A text with the characters that have a meaning in XML written as entities. -/
def escapeXml (s : String) : String :=
  String.ofList (s.toList.flatMap escapeChar)

/-- An attribute with a blank in front. -/
def xmlAttr (name value : String) : String :=
  " " ++ name ++ "=\"" ++ escapeXml value ++ "\""

/-- The attributes that count tests and tell the time. -/
def counts (tests : List TestResult) (duration : Nat) : String :=
  xmlAttr "tests" (toString tests.length) ++
    xmlAttr "failures" (toString (tests.countP fun t => !t.passed)) ++
    xmlAttr "skipped" (toString (tests.countP fun t => t.skipped.isSome)) ++
    xmlAttr "time" (secondsText duration)

/-- What a case holds. -/
def outcomeLines (t : TestResult) : List String :=
  match t.skipped with
  | some reason => ["      <skipped" ++ xmlAttr "message" reason ++ "/>"]
  | none =>
    if t.passed then []
    else
      let texts := t.failures.map Failure.message
      ["      <failure" ++ xmlAttr "message" (texts.head?.getD "Test failed") ++ ">"] ++
        texts.map escapeXml ++ ["      </failure>"]

/-- The lines of a case. -/
def caseLines (t : TestResult) : List String :=
  ["    <testcase" ++ xmlAttr "name" t.name ++ xmlAttr "time" (secondsText t.duration) ++ ">"] ++
    outcomeLines t ++ ["    </testcase>"]

/-- The lines of a suite. -/
def suiteLines (f : FileReport) : List String :=
  ["  <testsuite" ++ xmlAttr "name" f.path.text ++ counts f.tests f.duration ++ ">"] ++
    f.tests.flatMap caseLines ++ ["  </testsuite>"]

/-- The lines of the document. -/
def junitLines (r : SuiteReport) : List String :=
  ["<?xml version=\"1.0\" encoding=\"UTF-8\"?>",
    "<testsuites" ++ counts (r.files.flatMap FileReport.tests) r.duration ++ ">"] ++
    r.files.flatMap suiteLines ++ ["</testsuites>"]

end Assay.Report
