import Assay.Suite.Chore
import Assay.Suite.Expectation

/-!
# Running tests

A test may have a workspace, which is made first and given back last. Its preparation comes next,
then its steps up to the first that fails, and then its tidying up, whatever happened before. The
tests of a file run when the file has been prepared: first those that must be alone, one after the
other, then all others side by side; the file is tidied up when they have ended. Results are in the
order of the tests.
-/

namespace Assay.Suite

open Host Plan

/-- What came of a test. -/
structure TestResult where
  name : String
  id : Option String := none
  passed : Bool
  /-- Why the test did not run, if it did not. -/
  skipped : Option String := none
  /-- The nanoseconds that its commands took. -/
  duration : Nat := 0
  failures : List Failure := []

/-- The result of what is no test and failed. -/
def TestResult.failed (name : String) (failure : Failure) : TestResult :=
  { name, passed := false, failures := [failure] }

/-- Runs a step: its preparation, its invocation, and then its tidying up. A step whose preparation
fails ends there. -/
def runStep (s : Scope) (limit : Option Nat) (step : Step) : Plan (List StepFailure) := do
  match ← runSetup s step.setup with
  | .error fault => return [.setup fault]
  | .ok _ =>
    let failures ← match ← execute s limit step.run with
      | .ok x => check s limit step.expect x
      | .error failure => pure [failure]
    match ← runTeardown s step.teardown with
    | [] => return failures
    | faults => return failures ++ [.teardown faults]

/-- Runs steps up to the first that fails. -/
def runSteps (s : Scope) (limit : Option Nat) (named : Bool) : List Step → Plan (List Failure)
  | [] => return []
  | step :: rest => do
    match ← runStep s limit step with
    | [] => runSteps s limit named rest
    | failures => return failures.map (.step (if named then some step.name else none))

/-- Runs what a test does inside of its workspace. -/
def runBody (s : Scope) (limit : Option Nat) (t : Test) : Plan (List Failure) := do
  let failures ← match ← runSetup s t.setup with
    | .ok _ => runSteps s limit (t.steps.length > 1) t.steps
    | .error fault => pure [.setup fault]
  match ← runTeardown s t.teardown with
  | [] => return failures
  | faults => return failures ++ [.teardown faults]

/-- Why a test is not run, if it is not. -/
def skipReason (t : Test) : Option String :=
  match t.skip with
  | some reason => some reason
  | none =>
    if t.runsOn .posix then none else some ("not supported on " ++ Platform.posix.name)

/-- The seconds that a test's invocations get. -/
def timeoutOf (t : Test) (fileTimeout : Option Nat) : Option Nat :=
  t.timeout <|> fileTimeout

/-- Runs a test that is not skipped, in a workspace if it wishes for one. -/
def runUnskipped (c : Context) (fileTimeout : Option Nat) (t : Test) : Plan (List Failure) := do
  let limit := (timeoutOf t fileTimeout).map (· * 1000)
  match t.workspace.bind WorkspaceRequest.template? with
  | none => runBody (.forTest c none t.item) limit t
  | some template =>
    match ← Workspace.create c.layout.outputDir template with
    | .error fault => return [.workspace fault]
    | .ok path =>
      let failures ← runBody (.forTest c (some path) t.item) limit t
      Workspace.release path
      return failures

/-- Runs a test. Its duration is the time that its commands took, which no other request adds to; a
clock on the wall would also show the time in between. -/
def runTest (c : Context) (fileTimeout : Option Nat) (t : Test) : Plan TestResult := do
  match skipReason t with
  | some reason => return { name := t.name, id := t.id, passed := true, skipped := some reason }
  | none =>
    let (failures, duration) ← (runUnskipped c fileTimeout t).timed
    return { name := t.name, id := t.id, passed := failures.isEmpty, duration, failures }

/-- Whether a filter is part of a test's name or is its id. -/
def isSelected (filter : String) (t : Test) : Bool :=
  Text.contains t.name filter || t.id = some filter

/-- The tests that a filter selects, each with its number in the file. -/
def select (filter : Option String) (tests : List Test) : List (Nat × Test) :=
  (tests.zipIdx.map fun (t, i) => (i, t)).filter fun (_, t) => filter.all (isSelected · t)

/-- Runs numbered tests, those that must be alone first. The results are ordered by the numbers. A
plan has no way to break off, so there is no result for a test that does. -/
def runTests (c : Context) (fileTimeout : Option Nat) (schedule : List Nat)
    (tests : List (Nat × Test)) : Plan (List TestResult) := do
  let run : Nat × Test → Plan (Nat × TestResult) := fun (i, t) => do
    return (i, ← runTest c fileTimeout t)
  let (alone, others) := tests.partition fun (_, t) => t.serial
  let first ← inTurn (alone.map run)
  let second ← sideBySide schedule (others.map run)
  return ((first ++ second).mergeSort fun a b => a.1 ≤ b.1).map Prod.snd

/-- Runs the tests of a file that a filter selects. A file without any is left alone. -/
def runFile (c : Context) (filter : Option String) (schedule : List Nat) (f : CaseFile) :
    Plan (List TestResult) := do
  match select filter f.tests with
  | [] => return []
  | tests =>
    let s := Scope.ofContext c
    match ← runSetup s f.setup with
    | .error fault => return [.failed "<setup>" (.fileSetup fault)]
    | .ok _ =>
      let results ← runTests c (f.timeout <|> c.timeout) schedule tests
      match ← runTeardown s f.teardown with
      | [] => return results
      | faults => return results ++ [.failed "<teardown>" (.fileTeardown faults)]

/-- Prepares a suite. -/
def prepare (c : Context) (config : SuiteConfig) : Plan (Except ChoreFault Unit) :=
  runSetup (.ofContext c) config.setup

/-- Tidies a suite up, and removes every workspace that it left behind. -/
def tidyUp (c : Context) (config : SuiteConfig) : Plan (List ChoreFault) := do
  let faults ← runTeardown (.ofContext c) config.teardown
  let _ ← Workspace.cleanup (some c.layout.outputDir)
  return faults

end Assay.Suite
