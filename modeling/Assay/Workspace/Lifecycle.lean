import Assay.Host.Process

/-!
# The life of a workspace

A workspace is a directory with a new name below a root. It is entered into the registry when it has
been made and struck off when it has been removed, so a workspace that could not be removed stays
registered. A cleanup takes workspaces out of the registry first, tries each once, and puts back
those that it could not remove.

Removing restores access and tries once more if the first attempt fails for another reason than that
nothing is there.
-/

namespace Assay

open Host Plan

/-- Why a workspace cannot be made. -/
inductive WorkspaceFault where
  | invalidTemplate (template : String)
  | root (root : Path) (reason : Host.Fault)
  | create (root : Path) (reason : Host.Fault)

/-- A fault in words. -/
def WorkspaceFault.message : WorkspaceFault → String
  | .invalidTemplate t => Template.invalidMessage t
  | .root dir reason =>
    "failed to create output root " ++ dir.text ++ ": " ++ reason.message
  | .create dir reason =>
    "failed to create workspace in " ++ dir.text ++ ": " ++ reason.message

namespace Workspace

/-- Makes a workspace below a root, which is made first if it is missing. -/
def create (root : Path) (template : String) : Plan (Except WorkspaceFault Path) := do
  match Template.parse? template with
  | none => return .error (.invalidTemplate template)
  | some t =>
    match ← request (.createDirs root) with
    | .error reason => return .error (.root root reason)
    | .ok _ =>
      match ← request (.makeTemp root t) with
      | .error reason => return .error (.create root reason)
      | .ok path =>
        request (.register path)
        return .ok path

/-- Whether an attempt to remove a directory leaves nothing there. -/
def isGone : Except Host.Fault Unit → Bool
  | .ok _ => true
  | .error reason => reason = .missing

/-- Removes a directory tree, and says whether nothing is left. -/
def remove (path : Path) : Plan Bool := do
  if isGone (← request (.removeAll path)) then return true
  else
    setPermission path .allAccess
    return isGone (← request (.removeAll path))

/-- Gives a workspace back. -/
def release (path : Path) : Plan Unit := do
  if ← remove path then request (.unregister path)

/-- Removes workspaces that were taken out of the registry, and counts those that are gone. The
others are registered again. -/
def removeEach : List Path → Plan Nat
  | [] => return 0
  | path :: rest => do
    if ← remove path then return (← removeEach rest) + 1
    else
      request (.register path)
      removeEach rest

/-- Removes the registered workspaces below a root, or all, and counts them. -/
def cleanup (root : Option Path) : Plan Nat := do
  removeEach (← request (.takeRegistered root))

end Workspace

end Assay
