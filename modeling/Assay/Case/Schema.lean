import Assay.Case.Encode
import Assay.Schema

/-!
# The schema of case files

The schema that editors use for case files. Members go by their names in ascending order, and so do
the definitions.
-/

namespace Assay.Case

open Schema

/-- A schema with a description. -/
def described (text : String) (s : Schema) : Schema :=
  { s with description := some text }

/-- A schema with a default. -/
def defaulting (v : Json) (s : Schema) : Schema :=
  { s with default := some v }

/-- A reference to a definition. -/
def refTo (name : String) : Schema :=
  { ref := some name }

/-- A reference to a definition that can be described. -/
def exactly (name : String) : Schema :=
  { allOf := [refTo name] }

/-- A value of one type. -/
def ofType (t : JsonType) : Schema :=
  { types := [t] }

/-- A value of a type that may be left out. -/
def maybe (t : JsonType) : Schema :=
  defaulting .null { types := [t, .null] }

/-- A value of a definition that may be left out. -/
def maybeRef (name : String) : Schema :=
  defaulting .null { anyOf := [refTo name, ofType .null] }

/-- An array, empty if it is left out. -/
def arrayOf (items : Schema) : Schema :=
  defaulting (.arr []) { types := [.array], items := [items] }

/-- A timeout that may be left out. -/
def maybeTimeout : Schema :=
  { maybe .integer with format := some "uint64", natural := true }

/-- An object with members of which some must be there. -/
def object (required : List String) (properties : List (String × Schema)) : Schema :=
  { types := [.object], required, properties }

/-- A string that is one of some names. -/
def oneName (names : List String) : Schema :=
  { types := [.string], only := some names }

/-- The default of expectations. -/
def noExpectations : Json :=
  .sorted [("exit", .null), ("output", .null), ("reference", .null), ("files", .arr []),
    ("versions", .arr [])]

/-- The schema of expectations. -/
def expectSchema : Schema :=
  described "Expected outcomes of an invocation." <| object [] [
    ("exit", described "Expected exit code (default: 0), or `any` to skip the check."
      (maybeRef "ExitExpect")),
    ("files", described "Expected filesystem state." (arrayOf (refTo "FileExpect"))),
    ("output", described
      "Expected output: trimmed stdout, or trimmed stderr when stdout is empty."
      (maybeRef "OutputMatch")),
    ("reference", described "Exit code parity with the reference compiler."
      (maybeRef "ReferenceExpect")),
    ("versions", described
      ("Overrides for compiler versions whose diagnostics differ. " ++
        "The first entry whose requirement matches wins.")
      (arrayOf (refTo "VersionedExpect")))]

/-- The schema of the expected state of a path. -/
def fileExpectSchema : Schema :=
  described "Expected state of a path after the invocation." <| object ["path"] [
    ("empty", described "Whether the file (or directory) should be empty." (maybe .boolean)),
    ("exists", described "Whether the path should exist." (maybe .boolean)),
    ("path", described "Path to the file or directory." (ofType .string)),
    ("same_as_output_of", described
      "The file and the output of this command must contain one another." (maybeRef "Run"))]

/-- The schema of an expected output. -/
def outputMatchSchema : Schema :=
  described "Matching rules for output." { anyOf := [
    described "Exact string match." (ofType .string),
    described "Structured match with multiple options." (exactly "OutputMatchStructured")] }

/-- The schema of conditions on an output. -/
def outputRulesSchema : Schema :=
  described "Structured output matching with multiple match types." <| object [] [
    ("contains", described "Substring match." (maybe .string)),
    ("equals", described "Exact string match." (maybe .string)),
    ("not_regex", described "Regular expression that must not match." (maybe .string)),
    ("regex", described "Regular expression match." (maybe .string))]

/-- The schema of a permission. -/
def permissionSchema : Schema :=
  described "Permission applied to a directory tree." { oneOf := [
    described "Listable but neither writable nor traversable for new entries."
      (oneName ["read_only"]),
    described "Full access." (oneName ["all_access"])] }

/-- The schema of a program. -/
def programSchema : Schema :=
  described "The program a step invokes." { oneOf := [
    described "The compiler under test." (oneName ["Zksolc"]),
    described "The reference compiler." (oneName ["Solc"]),
    described "Any other command line fragment."
      { object ["Command"] [("Command", ofType .string)] with closed := true }] }

/-- The schema of a comparison with the reference compiler. -/
def referenceSchema : Schema :=
  described
    ("Parity check against the reference compiler.\n\n" ++
      "Runs `solc` with the same arguments (or `args`) and compares exit codes.") <|
  object [] [
    ("args", described "Arguments for the reference compiler, if they differ."
      { maybe .array with items := [ofType .string] }),
    ("exit", described "Expected reference exit code when it legitimately differs."
      { maybe .integer with format := some "int32" })]

/-- The schema of an invocation. -/
def runSchema : Schema :=
  described "Command execution configuration." <| object [] [
    ("args", described "Arguments, raw shell fragments joined with spaces."
      (arrayOf (ofType .string))),
    ("cmd", described "The program to execute (default: `zksolc`)."
      (defaulting (.str "zksolc") (exactly "Program"))),
    ("cwd", described "Working directory (default: the workspace, or the suite root without one)."
      (maybe .string))]

/-- The schema of a command. -/
def commandSchema : Schema :=
  described "A command to run in setup or teardown. A non-zero exit fails the step." <|
  object ["cmd"] [
    ("args", described "Command arguments." (arrayOf (ofType .string))),
    ("cmd", described "The command to execute." (exactly "Program"))]

/-- The schema of permissions to be set. -/
def setPermissionSchema : Schema :=
  described "Change the permissions of a directory tree." <| object ["mode", "path"] [
    ("mode", refTo "PermissionMode"),
    ("path", ofType .string)]

/-- The schema of a step of preparation. -/
def setupStepSchema : Schema :=
  described "A setup step.\n\nEach step is a single-key map where the key determines the action." <|
  object [] [
    ("create_dir", described "Create a directory and its parents." (maybe .string)),
    ("run", described "Run an arbitrary command." (maybeRef "RunStep")),
    ("set_permission", described "Change the permissions of a directory tree."
      (maybeRef "SetPermission")),
    ("write_file", described "Write a file with the given contents." (maybeRef "WriteFile"))]

/-- The schema of a step. -/
def stepSchema : Schema :=
  described "A single step within a multi-step test." <| object ["name", "run"] [
    ("expect", described "Expected outcomes." (defaulting noExpectations (exactly "Expect"))),
    ("name", described "Step name (used in failure reporting)." (ofType .string)),
    ("run", described "The command to execute." (exactly "Run")),
    ("setup", described "Step-level setup steps." (arrayOf (refTo "SetupStep"))),
    ("teardown", described "Step-level teardown steps." (arrayOf (refTo "TeardownStep")))]

/-- The schema of a step of tidying up. -/
def teardownStepSchema : Schema :=
  described
    "A teardown step.\n\nEach step is a single-key map where the key determines the action." <|
  object [] [
    ("remove_dir", described "Remove a directory recursively." (maybe .string)),
    ("run", described "Run an arbitrary command." (maybeRef "RunStep")),
    ("set_permission", described "Change the permissions of a directory tree."
      (maybeRef "SetPermission"))]

/-- The schema of a test. -/
def testSchema : Schema :=
  described "Shape of a test as written in a case file."
    { object ["name"] [
      ("description", maybe .string),
      ("each", described "Values to expand the test over, bound to `$\x7bitem\x7d`."
        (arrayOf (ofType .string))),
      ("expect", described "Single-step form: expected outcomes." (maybeRef "Expect")),
      ("id", described "Identifier of the case in the compiler's test plan." (maybe .string)),
      ("name", described "Unique name for this test." (ofType .string)),
      ("platforms", described "Hosts the test runs on (default: all)."
        (arrayOf (refTo "PlatformKind"))),
      ("run", described "Single-step form: the command to execute." (maybeRef "Run")),
      ("serial", described "Whether this test must run serially (not in parallel)."
        (defaulting (.bool false) (ofType .boolean))),
      ("setup", arrayOf (refTo "SetupStep")),
      ("skip", described "Reason the test is disabled. Skipped tests are reported, not run."
        (maybe .string)),
      ("steps", described "Multi-step form." { maybe .array with items := [refTo "Step"] }),
      ("teardown", arrayOf (refTo "TeardownStep")),
      ("timeout", described "Timeout in seconds (overrides file/suite default)." maybeTimeout),
      ("workspace", described "Per-test workspace, bound to `$\x7bworkspace\x7d`."
        (maybeRef "WorkspaceRequest"))] with closed := true }

/-- The schema of expectations for some versions. -/
def versionedExpectSchema : Schema :=
  described "Expectation override for a range of compiler versions." <| object ["requirement"] [
    ("exit", maybeRef "ExitExpect"),
    ("output", maybeRef "OutputMatch"),
    ("requirement", described "Semver requirement, e.g. `<1.5.0`." (ofType .string))]

/-- The schema of a file to be written. -/
def writeFileSchema : Schema :=
  described "Write a file with specific contents." <| object ["contents", "path"] [
    ("contents", described "File contents." (ofType .string)),
    ("path", described
      "Path to the file (relative to the workspace, or the suite root without one)."
      (ofType .string))]

/-- The definitions that the schema of case files names. -/
def definitions : List (String × Schema) := [
  ("AnyExit", oneName ["any"]),
  ("ExitExpect", described "Expected exit status."
    { anyOf := [{ types := [.integer], format := some "int32" }, refTo "AnyExit"] }),
  ("Expect", expectSchema),
  ("FileExpect", fileExpectSchema),
  ("OutputMatch", outputMatchSchema),
  ("OutputMatchStructured", outputRulesSchema),
  ("PermissionMode", permissionSchema),
  ("PlatformKind", described "Host family, used by cases restricted to one platform."
    (oneName ["posix", "windows"])),
  ("Program", programSchema),
  ("ReferenceExpect", referenceSchema),
  ("Run", runSchema),
  ("RunStep", commandSchema),
  ("SetPermission", setPermissionSchema),
  ("SetupStep", setupStepSchema),
  ("Step", stepSchema),
  ("TeardownStep", teardownStepSchema),
  ("Test", testSchema),
  ("VersionedExpect", versionedExpectSchema),
  ("WorkspaceRequest", described "Request for a per-test workspace: `true` or a name template."
    { anyOf := [ofType .boolean, ofType .string] }),
  ("WriteFile", writeFileSchema)]

/-- The schema of case files. -/
def schema : RootSchema :=
  { title := "CaseFile"
    schema := described "Root document of a case file." <| object ["tests", "version"] [
      ("description", described "What the tests in this file cover, e.g. \"Set of --bin tests\"."
        (maybe .string)),
      ("setup", described "Setup steps run before all tests in this file."
        (arrayOf (refTo "SetupStep"))),
      ("teardown", described "Teardown steps run after all tests in this file."
        (arrayOf (refTo "TeardownStep"))),
      ("tests", described "The tests defined in this file."
        { types := [.array], items := [refTo "Test"] }),
      ("timeout", described "Default timeout in seconds for tests in this file." maybeTimeout),
      ("version", described "Schema version (must match crate major version)."
        { types := [.integer], format := some "uint32", natural := true })]
    definitions }

end Assay.Case
