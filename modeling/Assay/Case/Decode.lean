import Assay.Case.Basic
import Assay.Decode.Reader

/-!
# Reading case files

A case file is read from data record by record. Two things are not one to one. A test is written
with a single run or with steps, never with both, and a single run is read as one step named `run`.
And three values have several forms: an exit code or `any`, a text or conditions on it, a truth
value or a template.
-/

namespace Assay.Case

open Decode

/-- Reads a permission. -/
def permission (f : Format) : Reader Permission :=
  variant f ["read_only", "all_access"] fun
    | "read_only" => some .readOnly
    | "all_access" => some .allAccess
    | _ => none

/-- Reads a platform. -/
def platform (f : Format) : Reader Platform :=
  variant f ["posix", "windows"] fun
    | "posix" => some .posix
    | "windows" => some .windows
    | _ => none

/-- Reads a program. -/
def program : Reader Program := fun p d =>
  Program.ofString <$> text p d

/-- Reads a file to be written. -/
def writeFile (f : Format) : Reader WriteFile :=
  Record.reader f
    { name := "WriteFile"
      fields := [
        .of "path" text (fun v r => { r with path := v }) true,
        .of "contents" text (fun v r => { r with contents := v }) true] }
    { path := "", contents := "" }

/-- Reads permissions to be set. -/
def setPermission (f : Format) : Reader SetPermission :=
  Record.reader f
    { name := "SetPermission"
      fields := [
        .of "path" text (fun v r => { r with path := v }) true,
        .of "mode" (permission f) (fun v r => { r with mode := v }) true] }
    { path := "", mode := .readOnly }

/-- Reads a command. -/
def command (f : Format) : Reader Command :=
  Record.reader f
    { name := "RunStep"
      fields := [
        .of "cmd" program (fun v r => { r with program := v }) true,
        .of "args" (list text) (fun v r => { r with args := v })] }
    { program := .zksolc }

/-- Reads a step of preparation. -/
def setupStep (f : Format) : Reader SetupStep :=
  Record.reader f
    { name := "SetupStep"
      fields := [
        .of "write_file" (optional (writeFile f)) (fun v r => { r with writeFile := v }),
        .of "create_dir" (optional text) (fun v r => { r with createDir := v }),
        .of "set_permission" (optional (setPermission f))
          (fun v r => { r with setPermission := v }),
        .of "run" (optional (command f)) (fun v r => { r with run := v })] }
    {}

/-- Reads a step of tidying up. -/
def teardownStep (f : Format) : Reader TeardownStep :=
  Record.reader f
    { name := "TeardownStep"
      fields := [
        .of "remove_dir" (optional text) (fun v r => { r with removeDir := v }),
        .of "set_permission" (optional (setPermission f))
          (fun v r => { r with setPermission := v }),
        .of "run" (optional (command f)) (fun v r => { r with run := v })] }
    {}

/-- Reads an invocation. -/
def run (f : Format) : Reader Run :=
  Record.reader f
    { name := "Run"
      fields := [
        .of "cmd" program (fun v r => { r with program := v }),
        .of "args" (list text) (fun v r => { r with args := v }),
        .of "cwd" (optional text) (fun v r => { r with cwd := v })] }
    {}

/-- The value that a reader makes of resolved data. -/
def attempt {α : Type} (read : Reader α) (d : Datum) : Option α :=
  (read.run d).toOption

/-- Reads a wish for a workspace. -/
def workspaceRequest : Reader WorkspaceRequest :=
  forms "WorkspaceRequest" fun d =>
    (attempt bool d).map .enabled <|> (attempt text d).map .template

/-- Reads an expected exit code. -/
def exitExpect : Reader ExitExpect :=
  forms "ExitExpect" fun d =>
    (attempt int32 d).map .code <|>
      attempt (variant resolved ["any"] fun | "any" => some .any | _ => none) d

/-- Reads conditions on an output. -/
def outputRules (f : Format) : Reader OutputRules :=
  Record.reader f
    { name := "OutputMatchStructured"
      fields := [
        .of "equals" (optional text) (fun v r => { r with equals := v }),
        .of "contains" (optional text) (fun v r => { r with contains := v }),
        .of "regex" (optional text) (fun v r => { r with regex := v }),
        .of "not_regex" (optional text) (fun v r => { r with notRegex := v })] }
    {}

/-- Reads an expected output. -/
def outputMatch : Reader OutputMatch :=
  forms "OutputMatch" fun d =>
    (attempt text d).map .exact <|> (attempt (outputRules resolved) d).map .rules

/-- Reads a comparison with the reference compiler. -/
def reference (f : Format) : Reader Reference :=
  Record.reader f
    { name := "ReferenceExpect"
      fields := [
        .of "args" (optional (list text)) (fun v r => { r with args := v }),
        .of "exit" (optional int32) (fun v r => { r with exit := v })] }
    {}

/-- Reads the expected state of a path. -/
def fileExpect (f : Format) : Reader FileExpect :=
  Record.reader f
    { name := "FileExpect"
      fields := [
        .of "path" text (fun v r => { r with path := v }) true,
        .of "exists" (optional bool) (fun v r => { r with exists? := v }),
        .of "empty" (optional bool) (fun v r => { r with empty? := v }),
        .of "same_as_output_of" (optional (run f)) (fun v r => { r with sameAsOutputOf := v })] }
    { path := "" }

/-- Reads expectations for some versions. -/
def versionedExpect (f : Format) : Reader VersionedExpect :=
  Record.reader f
    { name := "VersionedExpect"
      fields := [
        .of "requirement" text (fun v r => { r with requirement := v }) true,
        .of "exit" (optional exitExpect) (fun v r => { r with exit := v }),
        .of "output" (optional outputMatch) (fun v r => { r with output := v })] }
    { requirement := "" }

/-- Reads expectations. -/
def expect (f : Format) : Reader Expect :=
  Record.reader f
    { name := "Expect"
      fields := [
        .of "exit" (optional exitExpect) (fun v r => { r with exit := v }),
        .of "output" (optional outputMatch) (fun v r => { r with output := v }),
        .of "reference" (optional (reference f)) (fun v r => { r with reference := v }),
        .of "files" (list (fileExpect f)) (fun v r => { r with files := v }),
        .of "versions" (list (versionedExpect f)) (fun v r => { r with versions := v })] }
    {}

/-- Reads a step. -/
def step (f : Format) : Reader Step :=
  Record.reader f
    { name := "Step"
      fields := [
        .of "name" text (fun v r => { r with name := v }) true,
        .of "setup" (list (setupStep f)) (fun v r => { r with setup := v }),
        .of "run" (run f) (fun v r => { r with run := v }) true,
        .of "expect" (expect f) (fun v r => { r with expect := v }),
        .of "teardown" (list (teardownStep f)) (fun v r => { r with teardown := v })] }
    { name := "" }

/-- A test as it is written: with a single run and its expectations, or with steps. -/
structure Entry where
  test : Test
  run : Option Run := none
  expect : Option Expect := none
  steps : Option (List Step) := none

namespace Entry

/-- The step that a single run stands for. -/
def single (r : Run) (e : Option Expect) : Step :=
  { name := "run", run := r, expect := e.getD {} }

/-- The steps of a test, from whichever form it has. -/
def steps? (e : Entry) : Except ShapeFault (List Step) :=
  match e.steps, e.run with
  | some _, some _ => .error .bothForms
  | some steps, none => if e.expect.isSome then .error .strayExpect else .ok steps
  | none, some run => .ok [single run e.expect]
  | none, none => .error .noForm

/-- The test that an entry stands for. -/
def toTest (e : Entry) : Decoder Test :=
  match e.steps? with
  | .ok steps => return { e.test with steps }
  | .error fault => refuse (.shape e.test.name fault)

end Entry

/-- A field of an entry that the test keeps as it is. -/
def kept {β : Type} (name : String) (read : Reader β) (put : β → Test → Test)
    ( required : Bool := false) : Decode.Field Entry :=
  .of name read (fun v e => { e with test := put v e.test }) required

/-- The fields of a test as it is written. Members other than these are refused. -/
def entryRecord (f : Format) : Record Entry :=
  { name := "RawTest"
    closed := true
    fields := [
      kept "name" text (fun v t => { t with name := v }) true,
      kept "id" (optional text) (fun v t => { t with id := v }),
      kept "description" (optional text) (fun v t => { t with description := v }),
      kept "skip" (optional text) (fun v t => { t with skip := v }),
      kept "platforms" (list (platform f)) (fun v t => { t with platforms := v }),
      kept "each" (list text) (fun v t => { t with each := v }),
      kept "workspace" (optional workspaceRequest) (fun v t => { t with workspace := v }),
      kept "setup" (list (setupStep f)) (fun v t => { t with setup := v }),
      .of "run" (optional (run f)) (fun v e => { e with run := v }),
      .of "expect" (optional (expect f)) (fun v e => { e with expect := v }),
      .of "steps" (optional (list (step f))) (fun v e => { e with steps := v }),
      kept "teardown" (list (teardownStep f)) (fun v t => { t with teardown := v }),
      kept "timeout" (optional word64) (fun v t => { t with timeout := v }),
      kept "serial" bool (fun v t => { t with serial := v })] }

/-- Reads a test as it is written. -/
def entry (f : Format) : Reader Entry :=
  Record.reader f (entryRecord f) { test := { name := "" } }

/-- Reads a test. -/
def test (f : Format) : Reader Test := fun p d => do
  (← entry f p d).toTest

/-- Reads a case file, with its tests as they are written. -/
def file (f : Format) : Reader CaseFile :=
  Record.reader f
    { name := "CaseFile"
      fields := [
        .of "version" word32 (fun v r => { r with version := v }) true,
        .of "description" (optional text) (fun v r => { r with description := v }),
        .of "timeout" (optional word64) (fun v r => { r with timeout := v }),
        .of "setup" (list (setupStep f)) (fun v r => { r with setup := v }),
        .of "tests" (list (test f)) (fun v r => { r with tests := v }) true,
        .of "teardown" (list (teardownStep f)) (fun v r => { r with teardown := v })] }
    { version := 0 }

/-- Reads what a suite says. -/
def config (f : Format) : Reader SuiteConfig :=
  Record.reader f
    { name := "SuiteConfig"
      fields := [
        .of "version" word32 (fun v r => { r with version := v }),
        .of "zksolc" (optional text) (fun v r => { r with zksolc := v }),
        .of "solc" (optional text) (fun v r => { r with solc := v }),
        .of "zksolc_version" (optional text) (fun v r => { r with zksolcVersion := v }),
        .of "contracts_dir" (string "path string") (fun v r => { r with contractsDir := v }),
        .of "output_dir" (string "path string") (fun v r => { r with outputDir := v }),
        .of "timeout" (optional word64) (fun v r => { r with timeout := v }),
        .of "serial" bool (fun v r => { r with serial := v }),
        .of "setup" (list (setupStep f)) (fun v r => { r with setup := v }),
        .of "teardown" (list (teardownStep f)) (fun v r => { r with teardown := v })] }
    {}

end Assay.Case
