import Assay.Suite.Failure

/-!
# Preparing and tidying up

Preparation ends with the first step that fails. Tidying up attempts every step and collects what
fails. Within a step the actions are done in a fixed order up to the first that fails; in tidying up
permissions come first, so that a locked directory can still be removed.
-/

namespace Assay.Suite

open Host Plan

/-- A plan that may fail on the way. -/
abbrev Chore := ExceptT ChoreFault Plan

namespace Chore

/-- A text or path that was resolved, or the fault that it was not. -/
def resolved {α : Type} : Except Unresolved α → Chore α
  | .ok a => pure a
  | .error u => throw (.unresolved u)

/-- What the host did, or the fault that it refused. -/
def granted (fault : Fault → ChoreFault) (reply : Plan (Except Fault Unit)) : Chore Unit :=
  ExceptT.mk do
    match ← reply with
    | .ok _ => return .ok ()
    | .error reason => return .error (fault reason)

/-- Does an action if it is there. -/
def ifSome {α : Type} (action : α → Chore Unit) : Option α → Chore Unit
  | none => pure ()
  | some a => action a

/-- Runs a command, which must exit with zero. -/
def command (s : Scope) (c : Command) : Chore Unit := do
  let i ← resolved (s.invocation c.program c.args)
  match ← ExceptT.lift (runIn i (some s.directory) none) with
  | .error fault => throw (.run i.line fault)
  | .ok outcome => if outcome.success then pure () else throw (.exited i.line outcome)

/-- Sets permissions. -/
def permission (s : Scope) (p : SetPermission) : Chore Unit := do
  let path ← resolved (s.resolvePath p.path)
  ExceptT.lift (setPermission path p.mode)

/-- Writes a file and makes the directory that it is in. -/
def writeFile (s : Scope) (w : WriteFile) : Chore Unit := do
  let path ← resolved (s.resolvePath w.path)
  ifSome (fun parent => granted .createParent (request (.createDirs parent))) path.parent?
  granted (.write path) (request (.writeText path w.contents))

/-- Makes a directory. -/
def createDir (s : Scope) (text : String) : Chore Unit := do
  let path ← resolved (s.resolvePath text)
  granted (.createDir path) (request (.createDirs path))

/-- Removes a directory if something is there. -/
def removeDir (s : Scope) (text : String) : Chore Unit := do
  let path ← resolved (s.resolvePath text)
  if ← ExceptT.lift (pathExists path) then
    granted (.removeDir path) (request (.removeAll path))

/-- Does a step of preparation. -/
def setupStep (s : Scope) (step : SetupStep) : Chore Unit := do
  ifSome (writeFile s) step.writeFile
  ifSome (createDir s) step.createDir
  ifSome (permission s) step.setPermission
  ifSome (command s) step.run

/-- Does a step of tidying up. -/
def teardownStep (s : Scope) (step : TeardownStep) : Chore Unit := do
  ifSome (permission s) step.setPermission
  ifSome (removeDir s) step.removeDir
  ifSome (command s) step.run

end Chore

/-- Does the steps of preparation up to the first that fails. -/
def runSetup (s : Scope) : List SetupStep → Plan (Except ChoreFault Unit)
  | [] => return .ok ()
  | step :: rest => do
    match ← (Chore.setupStep s step).run with
    | .ok _ => runSetup s rest
    | .error fault => return .error fault

/-- Does all steps of tidying up, and collects their faults. -/
def runTeardown (s : Scope) : List TeardownStep → Plan (List ChoreFault)
  | [] => return []
  | step :: rest => do
    match ← (Chore.teardownStep s step).run with
    | .ok _ => runTeardown s rest
    | .error fault => return fault :: (← runTeardown s rest)

end Assay.Suite
