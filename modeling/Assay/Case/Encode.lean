import Assay.Case.Basic
import Assay.Json.Basic

/-!
# Writing case files as JSON

Every field is written, those that are missing as null. A test is written with its steps, even if it
was read with a single run; the value of a repetition is not written.
-/

namespace Assay

namespace Json

/-- A list of strings. -/
def ofStrings (l : List String) : Json :=
  .arr (l.map .str)

/-- An optional string. -/
def ofString? : Option String → Json :=
  .ofOption .str

end Json

/-- The word for a permission. -/
def Permission.name : Permission → String
  | .readOnly => "read_only"
  | .allAccess => "all_access"

/-- A file to be written, as JSON. -/
def WriteFile.toJson (w : WriteFile) : Json :=
  .obj [("path", .str w.path), ("contents", .str w.contents)]

/-- Permissions to be set, as JSON. -/
def SetPermission.toJson (s : SetPermission) : Json :=
  .obj [("path", .str s.path), ("mode", .str s.mode.name)]

/-- A command as JSON. -/
def Command.toJson (c : Command) : Json :=
  .obj [("cmd", .str c.program.toString), ("args", .ofStrings c.args)]

/-- A step of preparation as JSON. -/
def SetupStep.toJson (s : SetupStep) : Json :=
  .obj [
    ("write_file", .ofOption WriteFile.toJson s.writeFile),
    ("create_dir", .ofString? s.createDir),
    ("set_permission", .ofOption SetPermission.toJson s.setPermission),
    ("run", .ofOption Command.toJson s.run)]

/-- A step of tidying up as JSON. -/
def TeardownStep.toJson (s : TeardownStep) : Json :=
  .obj [
    ("remove_dir", .ofString? s.removeDir),
    ("set_permission", .ofOption SetPermission.toJson s.setPermission),
    ("run", .ofOption Command.toJson s.run)]

/-- An invocation as JSON. -/
def Run.toJson (r : Run) : Json :=
  .obj [("cmd", .str r.program.toString), ("args", .ofStrings r.args), ("cwd", .ofString? r.cwd)]

/-- A wish for a workspace as JSON. -/
def WorkspaceRequest.toJson : WorkspaceRequest → Json
  | .enabled b => .bool b
  | .template t => .str t

/-- An expected exit code as JSON. -/
def ExitExpect.toJson : ExitExpect → Json
  | .code n => .int n
  | .any => .str "any"

/-- Conditions on an output as JSON. -/
def OutputRules.toJson (r : OutputRules) : Json :=
  .obj [
    ("equals", .ofString? r.equals),
    ("contains", .ofString? r.contains),
    ("regex", .ofString? r.regex),
    ("not_regex", .ofString? r.notRegex)]

/-- An expected output as JSON. -/
def OutputMatch.toJson : OutputMatch → Json
  | .exact s => .str s
  | .rules r => r.toJson

/-- A comparison with the reference compiler as JSON. -/
def Reference.toJson (r : Reference) : Json :=
  .obj [("args", .ofOption .ofStrings r.args), ("exit", .ofOption .int r.exit)]

/-- The expected state of a path as JSON. -/
def FileExpect.toJson (e : FileExpect) : Json :=
  .obj [
    ("path", .str e.path),
    ("exists", .ofOption .bool e.exists?),
    ("empty", .ofOption .bool e.empty?),
    ("same_as_output_of", .ofOption Run.toJson e.sameAsOutputOf)]

/-- Expectations for some versions as JSON. -/
def VersionedExpect.toJson (e : VersionedExpect) : Json :=
  .obj [
    ("requirement", .str e.requirement),
    ("exit", .ofOption ExitExpect.toJson e.exit),
    ("output", .ofOption OutputMatch.toJson e.output)]

/-- Expectations as JSON. -/
def Expect.toJson (e : Expect) : Json :=
  .obj [
    ("exit", .ofOption ExitExpect.toJson e.exit),
    ("output", .ofOption OutputMatch.toJson e.output),
    ("reference", .ofOption Reference.toJson e.reference),
    ("files", .arr (e.files.map FileExpect.toJson)),
    ("versions", .arr (e.versions.map VersionedExpect.toJson))]

/-- A step as JSON. -/
def Step.toJson (s : Step) : Json :=
  .obj [
    ("name", .str s.name),
    ("setup", .arr (s.setup.map SetupStep.toJson)),
    ("run", s.run.toJson),
    ("expect", s.expect.toJson),
    ("teardown", .arr (s.teardown.map TeardownStep.toJson))]

/-- A test as JSON. -/
def Test.toJson (t : Test) : Json :=
  .obj [
    ("name", .str t.name),
    ("id", .ofString? t.id),
    ("description", .ofString? t.description),
    ("skip", .ofString? t.skip),
    ("platforms", .arr (t.platforms.map fun p => .str p.name)),
    ("each", .ofStrings t.each),
    ("workspace", .ofOption WorkspaceRequest.toJson t.workspace),
    ("setup", .arr (t.setup.map SetupStep.toJson)),
    ("steps", .arr (t.steps.map Step.toJson)),
    ("teardown", .arr (t.teardown.map TeardownStep.toJson)),
    ("timeout", .ofOption .ofNat t.timeout),
    ("serial", .bool t.serial)]

/-- A case file as JSON. -/
def CaseFile.toJson (f : CaseFile) : Json :=
  .obj [
    ("version", .ofNat f.version),
    ("description", .ofString? f.description),
    ("timeout", .ofOption .ofNat f.timeout),
    ("setup", .arr (f.setup.map SetupStep.toJson)),
    ("tests", .arr (f.tests.map Test.toJson)),
    ("teardown", .arr (f.teardown.map TeardownStep.toJson))]

/-- What a suite says, as JSON. -/
def SuiteConfig.toJson (c : SuiteConfig) : Json :=
  .obj [
    ("version", .ofNat c.version),
    ("zksolc", .ofString? c.zksolc),
    ("solc", .ofString? c.solc),
    ("zksolc_version", .ofString? c.zksolcVersion),
    ("contracts_dir", .str c.contractsDir),
    ("output_dir", .str c.outputDir),
    ("timeout", .ofOption .ofNat c.timeout),
    ("serial", .bool c.serial),
    ("setup", .arr (c.setup.map SetupStep.toJson)),
    ("teardown", .arr (c.teardown.map TeardownStep.toJson))]

end Assay
