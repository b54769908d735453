/-!
# Case files

A case file declares invocations of a compiler and what they must produce. Its tests have steps, a
step is one invocation with its expectations, and suite, file, test and step each may have steps
that prepare and steps that tidy up. Commands and their arguments are fragments of a shell's command
line; paths, commands and arguments may hold placeholders.
-/

namespace Assay

/-- What a directory tree is made to permit: looking at it only, or everything. -/
inductive Permission where
  | readOnly
  | allAccess
deriving DecidableEq

/-- The kinds of host that a test can be limited to. -/
inductive Platform where
  | posix
  | windows
deriving DecidableEq

/-- A platform's name. -/
def Platform.name : Platform → String
  | .posix => "posix"
  | .windows => "windows"

/-- What a step invokes: the compiler under test, the reference compiler, or another command. -/
inductive Program where
  | zksolc
  | solc
  | command (line : String)
deriving DecidableEq

namespace Program

/-- The program that a text names. -/
def ofString (s : String) : Program :=
  if s = "zksolc" then .zksolc else if s = "solc" then .solc else .command s

/-- A program as it is written. -/
def toString : Program → String
  | .zksolc => "zksolc"
  | .solc => "solc"
  | .command line => line

end Program

/-- A command in preparation or tidying up; it fails unless it exits with zero. -/
structure Command where
  program : Program
  args : List String := []

/-- A file to be written. -/
structure WriteFile where
  path : String
  contents : String

/-- Permissions to be set throughout a directory tree. -/
structure SetPermission where
  path : String
  mode : Permission

/-- A step of preparation. The actions that are there are done in the order of the fields. -/
structure SetupStep where
  writeFile : Option WriteFile := none
  createDir : Option String := none
  setPermission : Option SetPermission := none
  run : Option Command := none

/-- A step of tidying up. -/
structure TeardownStep where
  removeDir : Option String := none
  setPermission : Option SetPermission := none
  run : Option Command := none

/-- An invocation, in the workspace or the suite's root unless it names a directory. -/
structure Run where
  program : Program := .zksolc
  args : List String := []
  cwd : Option String := none

/-- A wish for a workspace: yes, no, or the template of its name. -/
inductive WorkspaceRequest where
  | enabled (b : Bool)
  | template (t : String)
deriving DecidableEq

/-- The template of a workspace that names none. -/
def defaultTemplate : String := "tmp-XXXXXX"

/-- The template of the wished workspace; none if no workspace is wished. -/
def WorkspaceRequest.template? : WorkspaceRequest → Option String
  | .enabled true => some defaultTemplate
  | .enabled false => none
  | .template t => some t

/-- An exit code that is expected, or any. -/
inductive ExitExpect where
  | code (n : Int)
  | any
deriving DecidableEq

/-- Conditions on an output; those that are there must all hold. -/
structure OutputRules where
  equals : Option String := none
  contains : Option String := none
  regex : Option String := none
  notRegex : Option String := none
deriving DecidableEq

/-- An expected output: a text, or conditions. -/
inductive OutputMatch where
  | exact (s : String)
  | rules (r : OutputRules)
deriving DecidableEq

/-- A comparison with the exit code of the reference compiler, which gets the same arguments unless
others are given, and whose code may be given instead. -/
structure Reference where
  args : Option (List String) := none
  exit : Option Int := none

/-- The expected state of a path. -/
structure FileExpect where
  path : String
  exists? : Option Bool := none
  empty? : Option Bool := none
  sameAsOutputOf : Option Run := none

/-- Expectations for some versions of the compiler. -/
structure VersionedExpect where
  requirement : String
  exit : Option ExitExpect := none
  output : Option OutputMatch := none

/-- What an invocation is expected to do. -/
structure Expect where
  exit : Option ExitExpect := none
  output : Option OutputMatch := none
  reference : Option Reference := none
  files : List FileExpect := []
  versions : List VersionedExpect := []

/-- One invocation of a test with what surrounds it. -/
structure Step where
  name : String
  setup : List SetupStep := []
  run : Run := {}
  expect : Expect := {}
  teardown : List TeardownStep := []

/-- A test. `each` lists the values that it is to be repeated for, and `item` is the value of one
repetition. -/
structure Test where
  name : String
  id : Option String := none
  description : Option String := none
  skip : Option String := none
  platforms : List Platform := []
  each : List String := []
  item : Option String := none
  workspace : Option WorkspaceRequest := none
  setup : List SetupStep := []
  steps : List Step := []
  teardown : List TeardownStep := []
  timeout : Option Nat := none
  serial : Bool := false

/-- Whether a test is meant for a platform; a test that names none is meant for all. -/
def Test.runsOn (t : Test) (p : Platform) : Bool :=
  t.platforms.isEmpty || t.platforms.contains p

/-- A case file. -/
structure CaseFile where
  version : Nat
  description : Option String := none
  timeout : Option Nat := none
  setup : List SetupStep := []
  tests : List Test := []
  teardown : List TeardownStep := []

/-- What a suite says about all of its case files. -/
structure SuiteConfig where
  version : Nat := 1
  zksolc : Option String := none
  solc : Option String := none
  zksolcVersion : Option String := none
  contractsDir : String := "contracts"
  outputDir : String := "artifacts"
  timeout : Option Nat := none
  serial : Bool := false
  setup : List SetupStep := []
  teardown : List TeardownStep := []

/-- The tests that a test stands for: itself, or one for each of its values. -/
def Test.instances (t : Test) : List Test :=
  if t.each.isEmpty then [t]
  else t.each.map fun item =>
    { t with name := t.name ++ " [" ++ item ++ "]", each := [], item := some item }

/-- The tests with each that has values replaced by its repetitions. -/
def expandEach (tests : List Test) : List Test :=
  tests.flatMap Test.instances

end Assay
