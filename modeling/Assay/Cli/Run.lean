import Assay.Case.Schema
import Assay.Case.Validate
import Assay.Cli.Options
import Assay.Report.Human
import Assay.Report.Json
import Assay.Report.Junit
import Assay.Suite.Discovery

/-!
# The commands

Each command is a plan that results in what is printed and in an exit code. Workspaces that a
command leaves behind are removed at its end, however it ends.
-/

namespace Assay.Cli

open Host Plan Suite Report

/-- What a command prints on its two streams, and whether it succeeds. -/
structure Printed where
  out : String := ""
  err : String := ""
  success : Bool := true

/-- Lines as text. -/
def unlines (lines : List String) : String :=
  String.join (lines.map (· ++ "\n"))

namespace Printed

/-- A failure that is told in one line. -/
def failure (line : String) : Printed :=
  { err := line ++ "\n", success := false }

/-- What was printed behind other lines on the second stream. -/
def behind (lines : List String) (p : Printed) : Printed :=
  { p with err := unlines lines ++ p.err }

end Printed

/-- The name of the program. -/
def programName : String := "zksolc-cli-tests"

/-- The version of the program. -/
def programVersion : String := "0.1.0"

/-! ## Running a suite -/

/-- Schedules for the files of a suite and for the tests of each. -/
structure Schedules where
  files : List Nat := []
  /-- The schedule for the tests of the file at a path. -/
  tests : Path → List Nat := fun _ => []

/-- Runs a file of a suite if it could be loaded. -/
def reportOn (c : Context) (filter : Option String) (schedules : Schedules) :
    Path × Except LoadFault CaseFile → Plan FileReport
  | (path, .error fault) => return { path, result := .error fault }
  | (path, .ok file) => do
    return { path, result := .ok (← runFile c filter (schedules.tests path) file) }

/-- Runs the files of a suite, one after the other if the suite says so and else side by side. A
plan has no way to break off, so there is no report of a file that does. -/
def runFiles (c : Context) (filter : Option String) (serial : Bool) (schedules : Schedules)
    (files : List (Path × Except LoadFault CaseFile)) : Plan (List FileReport) :=
  let plans := files.map (reportOn c filter schedules)
  if serial then inTurn plans else sideBySide schedules.files plans

/-- What is told about a suite before it runs. -/
def introduction (o : RunOptions) (c : Context) : List String :=
  if o.verbose then
    ["Suite root: " ++ c.layout.root.text,
      "zksolc: " ++ c.zksolc ++ (match c.version with
        | some v => " (v" ++ v.render ++ ")"
        | none => " (version unknown)"),
      "solc: " ++ c.solc]
  else []

/-- A report in a format. -/
def print (o : RunOptions) (r : SuiteReport) : Printed :=
  match o.format with
  | .human =>
    { out := unlines (humanLines o.verbose r)
      err := unlines (troubleLines r)
      success := !r.hasFailed }
  | .json => { out := (suiteJson r).pretty ++ "\n", success := !r.hasFailed }
  | .junit => { out := unlines (junitLines r), success := !r.hasFailed }

/-- Runs a suite of which the context is known. -/
def runSuite (o : RunOptions) (config : SuiteConfig) (c : Context) (schedules : Schedules) :
    Plan Printed := do
  match ← loadCases o.path with
  | .error reason =>
    return .failure ("Error finding case files: failed to find case files in " ++ o.path.text ++
      ": " ++ reason.message)
  | .ok [] => return .failure ("No case files found at: " ++ o.path.text)
  | .ok files =>
    match ← prepare c config with
    | .error fault => return .failure ("Suite setup failed: " ++ fault.message)
    | .ok _ =>
      let reports ← runFiles c o.filter config.serial schedules files
      let teardown ← tidyUp c config
      return print o { files := reports, teardown }

/-- Runs the tests at a path. -/
def run (o : RunOptions) (schedules : Schedules) : Plan Printed := do
  let filtering := match o.filter with
    | some f => if o.verbose then ["Filtering tests by: " ++ Text.quoted f] else []
    | none => []
  let root ← Suite.root o.path
  match ← loadConfig root with
  | .error fault =>
    return (Printed.failure ("Error loading suite config: " ++ fault.message)).behind filtering
  | .ok found =>
    let config := found.getD {}
    match ← Context.ofConfig root config o.zksolc o.solc with
    | none =>
      return (Printed.failure ("Error resolving suite root " ++ root.text ++ ": " ++
        Context.emptyRootMessage)).behind filtering
    | some c =>
      let printed ← runSuite o config c schedules
      return printed.behind (filtering ++ introduction o c)

/-! ## The other commands -/

/-- What is printed about a case file, and whether it is valid. -/
def validateFile (path : Path) (loaded : Except LoadFault CaseFile) : Printed :=
  match loaded with
  | .error fault => .failure ("✗ " ++ path.text ++ ": " ++ fault.message)
  | .ok file =>
    match file.problems with
    | [] => { out := "✓ " ++ path.text ++ " (" ++ toString file.tests.length ++ " tests)\n" }
    | problems =>
      { err := unlines (("✗ " ++ path.text) :: problems.map fun p => "    " ++ p.message)
        success := false }

/-- Checks case files without running them. -/
def validate (path : Path) : Plan Printed := do
  match ← loadCases path with
  | .error reason => return .failure ("Error finding case files: " ++ reason.message)
  | .ok [] => return .failure ("No case files found at: " ++ path.text)
  | .ok files =>
    let all := files.map fun (p, loaded) => validateFile p loaded
    let errors := all.countP fun p => !p.success
    let out := String.join (all.map Printed.out)
    let err := String.join (all.map Printed.err)
    if errors = 0 then
      return { out := out ++ "\nAll " ++ toString files.length ++ " case file(s) valid\n", err }
    else
      return {
        out
        err := err ++ "\n" ++ toString errors ++ " case file(s) failed validation\n"
        success := false }

/-- The case file to begin with. -/
def exampleText : String :=
  unlines [
    "version: 1",
    "description: Set of --bin tests",
    "",
    "tests:",
    "  - name: bin by default",
    "    run:",
    "      cmd: zksolc",
    "      args: [\"$\x7bcontracts.solidity\x7d\", \"--bin\"]",
    "    expect:",
    "      exit: 0",
    "      output:",
    "        regex: \"(?i)bytecode: 0x\"",
    "      # solc must exit with the same code",
    "      reference: \x7b\x7d",
    "",
    "  - name: bin artifact is written",
    "    workspace: true",
    "    run:",
    "      args: [\"$\x7bcontracts.solidity\x7d\", \"--bin\", \"--output-dir\", " ++
      "\"$\x7bworkspace\x7d\"]",
    "    expect:",
    "      output:",
    "        contains: \"Compiler run successful\"",
    "      files:",
    "        - path: $\x7bworkspace\x7d/$\x7bfile.solidity\x7d/$\x7bartifact.bin\x7d",
    "          exists: true",
    "          empty: false"]

/-- Makes the directory of a file if it is missing. -/
def createParent (path : Path) : Plan (Except Host.Fault Unit) := do
  match path.parent? with
  | none => return .ok ()
  | some parent =>
    if parent.text.isEmpty then return .ok ()
    else if ← pathExists parent then return .ok ()
    else request (.createDirs parent)

/-- Writes a case file to begin with. -/
def init (path : Path) : Plan Printed := do
  if ← pathExists path then return .failure ("Error: file already exists: " ++ path.text)
  else
    match ← createParent path with
    | .error reason => return .failure ("Error creating directory: " ++ reason.message)
    | .ok _ =>
      match ← request (.writeText path exampleText) with
      | .error reason => return .failure ("Error writing file: " ++ reason.message)
      | .ok _ => return { out := "Created: " ++ path.text ++ "\n" }

/-- Tells the paths of a suite. -/
def paths (root : Path) : Plan Printed := do
  match ← loadConfig root with
  | .error fault => return .failure ("Error loading suite config: " ++ fault.message)
  | .ok found =>
    match root.absolute? (← request .workingDir) with
    | none =>
      return .failure ("Error resolving " ++ root.text ++ ": " ++ Context.emptyRootMessage)
    | some root =>
      let config := found.getD {}
      let layout := Layout.ofDirs root config.contractsDir config.outputDir
      return { out := unlines (layout.bindings.map fun (name, value) => name ++ " = " ++ value) }

/-- What a command does. -/
def Command.plan (schedules : Schedules) : Command → Plan Printed
  | .run options => Cli.run options schedules
  | .validate path => Cli.validate path
  | .init path => Cli.init path
  | .schema => return { out := Case.schema.toJson.pretty ++ "\n" }
  | .paths root => Cli.paths root
  | .version => return { out := programName ++ " " ++ programVersion ++ "\n" }

/-- What the program does when it is told so by words; a wrong use has no plan. Workspaces that are
left at the end are removed. -/
def plan? (schedules : Schedules) (words : List String) : Option (Plan Printed) :=
  (Command.parse? false words).map fun c => do
    let printed ← c.plan schedules
    let _ ← Workspace.cleanup none
    return printed

end Assay.Cli
