import Assay.Case.Basic
import Assay.Layout
import Assay.Regex.Search
import Assay.Semver.Requirement
import Assay.Workspace.Template

/-!
# Mistakes in case files

A case file that can be read may still be wrong: a version that is not known, two tests of one name,
a test without steps, a template without a random part, a pattern or a version requirement that is
none, or a placeholder that has no value where it stands. Each mistake is a problem; a file without
problems is valid.

Placeholders are looked for in every text that is resolved when the file is run: the paths, commands
and arguments of all steps. The texts of the file's own steps know the suite's paths and compilers;
those of a test also know the workspace, if it has one, and the item, if it repeats another test.
-/

namespace Assay

/-- A mistake in a case file. `context` says where it stands. -/
inductive Problem where
  | unsupportedVersion (version : Nat)
  | unknownPlaceholder (context name text : String)
  | duplicateName (name : String)
  | noSteps (context : String)
  | invalidTemplate (context template : String)
  | invalidRegex (context pattern : String) (fault : Regex.Fault)
  | invalidRequirement (context requirement : String) (fault : Semver.Fault)

/-- A problem in words. -/
def Problem.message : Problem → String
  | .unsupportedVersion v => "unsupported version " ++ toString v ++ " (expected 1)"
  | .unknownPlaceholder context name text =>
    context ++ ": unknown placeholder '$\x7b" ++ name ++ "\x7d' in '" ++ text ++ "'"
  | .duplicateName name => "duplicate test name '" ++ name ++ "'"
  | .noSteps context => context ++ ": no steps"
  | .invalidTemplate context template => context ++ ": " ++ Template.invalidMessage template
  | .invalidRegex context pattern fault =>
    context ++ ": invalid regex '" ++ pattern ++ "': " ++ fault.message
  | .invalidRequirement context requirement fault =>
    context ++ ": invalid version requirement '" ++ requirement ++ "': " ++ fault.message

/-- The texts of a command that are resolved when it is run. -/
def Command.texts (c : Command) : List String :=
  c.program.toString :: c.args

/-- The texts of a step of preparation that are resolved. -/
def SetupStep.texts (s : SetupStep) : List String :=
  (s.writeFile.map WriteFile.path).toList ++ s.createDir.toList ++
    (s.setPermission.map SetPermission.path).toList ++ (s.run.map Command.texts).getD []

/-- The texts of a step of tidying up that are resolved. -/
def TeardownStep.texts (s : TeardownStep) : List String :=
  s.removeDir.toList ++ (s.setPermission.map SetPermission.path).toList ++
    (s.run.map Command.texts).getD []

/-- The texts of an invocation that are resolved. -/
def Run.texts (r : Run) : List String :=
  r.program.toString :: r.args ++ r.cwd.toList

/-- The texts of the expected state of a path that are resolved. -/
def FileExpect.texts (e : FileExpect) : List String :=
  e.path :: (e.sameAsOutputOf.map Run.texts).getD []

/-- The texts of expectations that are resolved. -/
def Expect.texts (e : Expect) : List String :=
  ((e.reference.bind Reference.args).getD []) ++ e.files.flatMap FileExpect.texts

/-- The texts of a step that are resolved. -/
def Step.texts (s : Step) : List String :=
  s.setup.flatMap SetupStep.texts ++ s.teardown.flatMap TeardownStep.texts ++ s.run.texts ++
    s.expect.texts

/-- The texts of a test that are resolved. -/
def Test.texts (t : Test) : List String :=
  t.setup.flatMap SetupStep.texts ++ t.teardown.flatMap TeardownStep.texts ++
    t.steps.flatMap Step.texts

/-- The names that have a value everywhere in a suite. -/
def suiteNames : List String :=
  (Layout.ofRoot ⟨""⟩).bindings.names ++ ["zksolc", "solc", "solc.path"]

/-- The template of the workspace that a test wishes. -/
def Test.template? (t : Test) : Option String :=
  t.workspace.bind WorkspaceRequest.template?

/-- The names that have a value in a test. -/
def Test.names (t : Test) : List String :=
  (t.item.map fun _ => "item").toList ++ (t.template?.map fun _ => "workspace").toList ++ suiteNames

/-- A problem for each name that a text mentions and that has no value. -/
def unknownPlaceholders (known : List String) (context text : String) : List Problem :=
  ((Placeholder.referenced text).filter fun name => !known.contains name).map fun name =>
    .unknownPlaceholder context name text

/-- The patterns of conditions on an output. -/
def OutputMatch.patterns : OutputMatch → List String
  | .exact _ => []
  | .rules r => r.regex.toList ++ r.notRegex.toList

/-- All outputs that expectations speak of. -/
def Expect.outputs (e : Expect) : List OutputMatch :=
  e.output.toList ++ e.versions.filterMap VersionedExpect.output

/-- The problem of a pattern, if it is none. -/
def regexProblem? (context pattern : String) : Option Problem :=
  match Regex.compile pattern with
  | .ok _ => none
  | .error fault => some (.invalidRegex context pattern fault)

/-- The problem of a requirement, if it is none. -/
def requirementProblem? (context requirement : String) : Option Problem :=
  match Semver.Requirement.parse requirement.toList with
  | .ok _ => none
  | .error fault => some (.invalidRequirement context requirement fault)

/-- The problems of expectations: patterns first, then version requirements. -/
def Expect.problems (context : String) (e : Expect) : List Problem :=
  (e.outputs.flatMap OutputMatch.patterns).filterMap (regexProblem? context) ++
    (e.versions.map VersionedExpect.requirement).filterMap (requirementProblem? context)

/-- How a test is called in problems. -/
def Test.context (t : Test) : String :=
  "test '" ++ t.name ++ "'"

/-- The problems of the template of a test's workspace. -/
def Test.templateProblems (t : Test) : List Problem :=
  match t.template? with
  | none => []
  | some template =>
    if (Template.parse? template).isSome then [] else [.invalidTemplate t.context template]

/-- The problems of a test by itself. -/
def Test.problems (t : Test) : List Problem :=
  (if t.steps.isEmpty then [.noSteps t.context] else []) ++ t.templateProblems ++
    (t.steps.flatMap fun s => s.expect.problems (t.context ++ ", step '" ++ s.name ++ "'")) ++
    t.texts.flatMap (unknownPlaceholders t.names t.context)

/-- The problems of tests in order, where the names in `seen` were used before. -/
def testProblems (seen : List String) : List Test → List Problem
  | [] => []
  | t :: rest =>
    (if seen.contains t.name then [.duplicateName t.name] else []) ++ t.problems ++
      testProblems (t.name :: seen) rest

/-- The texts of a file's own steps. -/
def CaseFile.texts (f : CaseFile) : List String :=
  f.setup.flatMap SetupStep.texts ++ f.teardown.flatMap TeardownStep.texts

/-- All problems of a case file, in order. -/
def CaseFile.problems (f : CaseFile) : List Problem :=
  (if f.version ≠ 1 then [.unsupportedVersion f.version] else []) ++
    f.texts.flatMap (unknownPlaceholders suiteNames "file setup/teardown") ++
    testProblems [] f.tests

end Assay
