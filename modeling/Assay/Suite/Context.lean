import Assay.Host.Process
import Assay.Layout

/-!
# Contexts and scopes

A context is what a run knows about its suite: the paths, the two compilers, the version of the one
under test if it is known, and the time that invocations get. It binds the names of the paths and of
the compilers. A scope is what a test sees of it: the bindings, with the test's workspace and item
put in, and the directory in which commands run.
-/

namespace Assay.Suite

open Host Plan

/-- What a run knows about its suite. -/
structure Context where
  layout : Layout
  /-- The fragment of a command line that invokes the compiler under test. -/
  zksolc : String
  /-- The fragment of a command line that invokes the reference compiler. -/
  solc : String
  version : Option Semver.Version := none
  /-- The seconds for invocations of tests and files that set none. -/
  timeout : Option Nat := none
  bindings : Bindings

namespace Context

/-- The bindings of a suite, where `solcPath` is the reference compiler's path. -/
def bindingsOf (layout : Layout) (zksolc solc solcPath : String) : Bindings :=
  ((layout.bindings.insert "zksolc" zksolc).insert "solc" solc).insert "solc.path" solcPath

/-- The context of a suite. Where the reference compiler is not found on the search path, its
fragment stands for its path. -/
def create (layout : Layout) (zksolc solc : String) (version : Option Semver.Version)
    (timeout : Option Nat) : Plan Context := do
  let solcPath ← locateProgram? solc
  let bindings := bindingsOf layout zksolc solc (solcPath.getD solc)
  return { layout, zksolc, solc, version, timeout, bindings }

/-- The version of the compiler under test: what the settings say, or what it announces. Where that
fails the version is not known. -/
def findVersion (config : SuiteConfig) (zksolc : String) : Plan (Option Semver.Version) := do
  match config.zksolcVersion with
  | some value => return (Banner.parseConfigured value).toOption
  | none => return (← detectVersion zksolc).toOption

/-- The context of the suite at a root. Compilers that are given win over those of the settings.
None for the empty path, which is no root. -/
def ofConfig (root : Path) (config : SuiteConfig) (zksolc solc : Option String) :
    Plan (Option Context) := do
  match root.absolute? (← request .workingDir) with
  | none => return none
  | some root =>
    let layout := Layout.ofDirs root config.contractsDir config.outputDir
    let zksolc := (zksolc <|> config.zksolc).getD "zksolc"
    let solc := (solc <|> config.solc).getD "solc"
    let version ← findVersion config zksolc
    return some (← create layout zksolc solc version config.timeout)

/-- What is wrong with an empty root, in words. -/
def emptyRootMessage : String :=
  "cannot make an empty path absolute"

end Context

/-- A text that cannot be expanded. -/
structure Unresolved where
  text : String
  fault : Placeholder.Fault

/-- A text that cannot be expanded, in words. -/
def Unresolved.message (u : Unresolved) : String :=
  u.fault.message ++ " in " ++ Text.quoted u.text

/-- What a test sees of its context. -/
structure Scope where
  context : Context
  bindings : Bindings
  directory : Path

namespace Scope

/-- The scope of the suite and of its files. -/
def ofContext (c : Context) : Scope :=
  { context := c, bindings := c.bindings, directory := c.layout.root }

/-- The scope inside a workspace. -/
def inWorkspace (s : Scope) (path : Path) : Scope :=
  { s with bindings := s.bindings.insert "workspace" path.text, directory := path }

/-- The scope with an item. -/
def withItem (s : Scope) (item : String) : Scope :=
  { s with bindings := s.bindings.insert "item" item }

/-- The scope of a test that may have a workspace. -/
def forTest (c : Context) (workspace : Option Path) (item : Option String) : Scope :=
  let s := ofContext c
  let s := match workspace with
    | some path => s.inWorkspace path
    | none => s
  match item with
  | some i => s.withItem i
  | none => s

/-- A text with its placeholders replaced. -/
def resolve (s : Scope) (text : String) : Except Unresolved String :=
  match Placeholder.expand text s.bindings with
  | .ok t => .ok t
  | .error fault => .error ⟨text, fault⟩

/-- The path that a text means, relative to the directory of the scope. -/
def resolvePath (s : Scope) (text : String) : Except Unresolved Path := do
  return s.directory.join ⟨← s.resolve text⟩

/-- Texts with their placeholders replaced. -/
def resolveAll (s : Scope) : List String → Except Unresolved (List String)
  | [] => .ok []
  | t :: rest => do
    let r ← s.resolve t
    return r :: (← s.resolveAll rest)

/-- The fragment of a command line that invokes a program. -/
def program (s : Scope) : Program → Except Unresolved String
  | .zksolc => .ok s.context.zksolc
  | .solc => .ok s.context.solc
  | .command line => s.resolve line

/-- The invocation of a program with arguments. -/
def invocation (s : Scope) (p : Program) (args : List String) : Except Unresolved Invocation := do
  let arguments ← s.resolveAll args
  return { command := ← s.program p, arguments }

/-- The directory of a run. -/
def directoryOf (s : Scope) (r : Run) : Except Unresolved Path :=
  match r.cwd with
  | some text => s.resolvePath text
  | none => .ok s.directory

end Scope

end Assay.Suite
