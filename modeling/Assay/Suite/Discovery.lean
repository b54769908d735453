import Assay.Case.Load
import Assay.Host.Process

/-!
# Finding a suite and its files

The root of a suite is the nearest directory that holds its settings. Its case files are all files
below a directory with the extension of a language, except the settings; they are listed in the
order of their paths.
-/

namespace Assay.Suite

open Host Plan

/-- The name of the file with a suite's settings. -/
def configName : String := "cli-tests.yaml"

/-- The first of some directories that holds the settings of a suite. -/
def firstWithConfig : List Path → Plan (Option Path)
  | [] => return none
  | dir :: rest => do
    if ← isFile (dir.child configName) then return some dir else firstWithConfig rest

/-- The root of the suite that a path belongs to: the nearest directory at or above it that holds
settings, or the directory of the path if there is none. -/
def root (path : Path) : Plan Path := do
  let start := if ← isFile path then path.parent?.getD path else path
  return (← firstWithConfig start.ancestors).getD start

/-- Whether a path that is no directory is a case file. -/
def isCaseFile (path : Path) : Bool :=
  match path.extension? with
  | none => false
  | some e => (Language.ofExtension? e).isSome && path.fileName? ≠ some configName

/-- The case files among the entries of a directory and below, where `below` lists those in a
directory. -/
def collectEach (below : Path → Plan (Except Host.Fault (List Path))) (dir : Path) :
    List String → Plan (Except Host.Fault (List Path))
  | [] => return .ok []
  | name :: rest => do
    let path := dir.child name
    let found ←
      if ← isDir path then below path
      else pure (.ok (if isCaseFile path then [path] else []))
    match found with
    | .error reason => return .error reason
    | .ok files =>
      match ← collectEach below dir rest with
      | .error reason => return .error reason
      | .ok more => return .ok (files ++ more)

/-- The case files in a directory and below, with so many levels of directories left. -/
def collect : (levels : Nat) → Path → Plan (Except Host.Fault (List Path))
  | 0, _ => return .error .nameTooLong
  | levels + 1, dir => do
    match ← request (.list dir) with
    | .error reason => return .error reason
    | .ok names => collectEach (collect levels) dir names

/-- The most characters that a host takes in a path, and so a bound on the levels of directories. -/
def pathLimit : Nat := 4096

/-- The case files at a path, in the order of their paths: the file itself, or those in the
directory and below. -/
def caseFiles (path : Path) : Plan (Except Host.Fault (List Path)) := do
  if ← isFile path then return .ok [path]
  else
    match ← collect pathLimit path with
    | .error reason => return .error reason
    | .ok files => return .ok (files.mergeSort fun p q => p.compare q ≠ .gt)

/-- Loads the case file at a path. -/
def loadCase (path : Path) : Plan (Except LoadFault CaseFile) := do
  match ← request (.readText path) with
  | .error reason => return .error (.unreadable reason)
  | .ok text => return Load.caseFile path text

/-- Loads the settings in a directory; there may be none. -/
def loadConfig (dir : Path) : Plan (Except LoadFault (Option SuiteConfig)) := do
  let path := dir.child configName
  if ← pathExists path then
    match ← request (.readText path) with
    | .error reason => return .error (.unreadable reason)
    | .ok text => return (Load.config text).map some
  else return .ok none

/-- Loads several case files. -/
def loadEach : List Path → Plan (List (Path × Except LoadFault CaseFile))
  | [] => return []
  | path :: rest => do
    let file ← loadCase path
    return (path, file) :: (← loadEach rest)

/-- Loads the case files at a path. Files that cannot be loaded are among them. -/
def loadCases (path : Path) :
    Plan (Except Host.Fault (List (Path × Except LoadFault CaseFile))) := do
  match ← caseFiles path with
  | .error reason => return .error reason
  | .ok files => return .ok (← loadEach files)

end Assay.Suite
