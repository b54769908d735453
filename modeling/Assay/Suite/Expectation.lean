import Assay.Semver.Requirement
import Assay.Suite.Inspection

/-!
# Expectations

What an invocation did is compared with what is expected of it: its exit code, its output, the exit
code of the reference compiler in the same directory, and the state of paths. Expectations for a
version replace the exit code and the output, each only if they have one. All comparisons are made;
each that fails adds a failure.
-/

namespace Assay.Suite

open Host Plan

/-- An invocation that has ended, and the directory it ran in. -/
structure Executed where
  invocation : Invocation
  directory : Path
  outcome : Outcome

/-- Runs an invocation of a test for so many milliseconds at most. -/
def execute (s : Scope) (limit : Option Nat) (r : Run) : Plan (Except StepFailure Executed) := do
  match s.invocation r.program r.args, s.directoryOf r with
  | .error u, _ | .ok _, .error u => return .error (.unresolved u)
  | .ok invocation, .ok directory =>
    match ← runIn invocation (some directory) limit with
    | .error fault => return .error (.execution fault)
    | .ok outcome => return .ok { invocation, directory, outcome }

/-- Whether expectations are for a version. -/
def appliesTo (v : VersionedExpect) (version : Semver.Version) : Bool :=
  match Semver.Requirement.parse v.requirement.toList with
  | .ok r => r.admits version
  | .error _ => false

/-- The exit code and the output that are expected of a version: those of the first expectations for
it, or where they have none those for all versions. -/
def effective (e : Expect) (version : Option Semver.Version) :
    Option ExitExpect × Option OutputMatch :=
  match version.bind fun v => e.versions.find? (appliesTo · v) with
  | none => (e.exit, e.output)
  | some v => (v.exit <|> e.exit, v.output <|> e.output)

/-- Compares an exit code. Zero is expected if nothing else is. -/
def checkExit (expected : Option ExitExpect) (outcome : Outcome) : Option StepFailure :=
  match expected.getD (.code 0) with
  | .any => none
  | .code n =>
    match outcome.exitCode with
    | none => some (.noExitCode n)
    | some m => if m = n then none else some (.exitCode n m outcome.output)

/-- Compares an output with a text. -/
def checkEqual (expected actual : String) : Option Mismatch :=
  if actual = expected then none else some (.notEqual expected actual)

/-- Looks for a text in an output. -/
def checkContains (part actual : String) : Option Mismatch :=
  if Text.contains actual part then none else some (.notContained part actual)

/-- Looks for a match of a pattern in an output. -/
def checkMatch (pattern actual : String) : Option Mismatch :=
  match Regex.compile pattern with
  | .error fault => some (.badPattern pattern fault)
  | .ok p => if (p.find? actual).isSome then none else some (.noMatch pattern actual)

/-- Looks that an output has no match of a pattern. -/
def checkNoMatch (pattern actual : String) : Option Mismatch :=
  match Regex.compile pattern with
  | .error fault => some (.badPattern pattern fault)
  | .ok p => (p.find? actual).map fun found => .aMatch pattern found actual

/-- Compares an output with conditions, in the order of the fields, up to the first that fails. -/
def checkRules (r : OutputRules) (actual : String) : Option Mismatch :=
  r.equals.bind (checkEqual · actual) <|>
    r.contains.bind (checkContains · actual) <|>
    r.regex.bind (checkMatch · actual) <|>
    r.notRegex.bind (checkNoMatch · actual)

/-- Compares an output. -/
def checkOutput (expected : OutputMatch) (actual : String) : Option Mismatch :=
  match expected with
  | .exact s => checkEqual s actual
  | .rules r => checkRules r actual

/-- Compares the exit code of the reference compiler. -/
def checkReference (s : Scope) (limit : Option Nat) (x : Executed) (r : Reference) :
    Plan (List StepFailure) := do
  let args := match r.args with
    | some args => s.resolveAll args
    | none => .ok x.invocation.arguments
  match args with
  | .error u => return [.unresolved u]
  | .ok arguments =>
    match ← runIn { command := s.context.solc, arguments } (some x.directory) limit with
    | .error fault => return [.reference fault]
    | .ok outcome =>
      let expected := r.exit <|> x.outcome.exitCode
      return if outcome.exitCode = expected then [] else [.referenceExit expected outcome]

/-- Compares whether a path is empty. -/
def checkEmpty (path : Path) (expected : Bool) : Plan (List StepFailure) := do
  match ← isEmpty path with
  | .ok actual => return if actual = expected then [] else [.emptiness expected path]
  | .error fault => return [.inspection fault]

/-- Compares a file with the output of a run. -/
def checkContents (s : Scope) (limit : Option Nat) (path : Path) (r : Run) :
    Plan (List StepFailure) := do
  match ← execute s limit r with
  | .error failure => return [failure]
  | .ok x =>
    match ← sameContent path x.outcome.output with
    | .error reason => return [.unreadable path reason]
    | .ok same => return if same then [] else [.contents path x.outcome.output]

/-- Does a comparison if it is asked for. -/
def ifAsked {α : Type} (check : α → Plan (List StepFailure)) : Option α → Plan (List StepFailure)
  | none => return []
  | some a => check a

/-- Compares what a path holds. -/
def look (s : Scope) (limit : Option Nat) (path : Path) (f : FileExpect) :
    Plan (List StepFailure) := do
  let emptiness ← ifAsked (checkEmpty path) f.empty?
  let contents ← ifAsked (checkContents s limit path) f.sameAsOutputOf
  return emptiness ++ contents

/-- Compares the state of a path. A path that should exist and does not, or the other way round, is
not looked at further. -/
def checkFile (s : Scope) (limit : Option Nat) (f : FileExpect) : Plan (List StepFailure) := do
  match s.resolvePath f.path with
  | .error u => return [.unresolved u]
  | .ok path =>
    match f.exists? with
    | none => look s limit path f
    | some expected =>
      if (← isThere path) = expected then look s limit path f
      else return [.existence expected path]

/-- Compares the states of paths. -/
def checkFiles (s : Scope) (limit : Option Nat) : List FileExpect → Plan (List StepFailure)
  | [] => return []
  | f :: rest => do
    let failures ← checkFile s limit f
    return failures ++ (← checkFiles s limit rest)

/-- Makes all comparisons. -/
def check (s : Scope) (limit : Option Nat) (e : Expect) (x : Executed) :
    Plan (List StepFailure) := do
  let (exit, output) := effective e s.context.version
  let codes := (checkExit exit x.outcome).toList
  let outputs := (output.bind (checkOutput · x.outcome.output)).toList.map StepFailure.output
  let references ← ifAsked (checkReference s limit x) e.reference
  let files ← checkFiles s limit e.files
  return codes ++ outputs ++ references ++ files

end Assay.Suite
