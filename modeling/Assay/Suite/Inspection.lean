import Assay.Suite.Failure

/-!
# Inspecting artifacts

A path exists if the host finds something there and a listing of it succeeds: the first alone
reports paths that cannot be got at. A file agrees with an output if one of the two contains the
other, since an output has a banner around the artifact and a file may end with a line break.
-/

namespace Assay.Suite

open Host Plan

/-- Whether a listing of a path succeeds. -/
def isListable (path : Path) : Plan Bool := do
  match ← runHere (Platform.posix.listing path) with
  | .ok outcome => return outcome.success
  | .error _ => return false

/-- Whether something is at a path that can be listed. -/
def isThere (path : Path) : Plan Bool := do
  if ← pathExists path then isListable path else return false

/-- Whether a file has no contents, or a directory no entries. -/
def isEmpty (path : Path) : Plan (Except InspectFault Bool) := do
  if !(← isThere path) then return .error (.notFound path)
  else
    match ← request (.stat path) with
    | .error reason => return .error (.io path reason)
    | .ok s =>
      if s.isDir then
        match ← request (.list path) with
        | .error reason => return .error (.io path reason)
        | .ok names => return .ok names.isEmpty
      else return .ok (s.size = 0)

/-- Whether one of two texts contains the other. -/
def containsEither (a b : String) : Bool :=
  Text.contains a b || Text.contains b a

/-- Whether a file and an output agree. -/
def sameContent (path : Path) (output : String) : Plan (Except Fault Bool) := do
  match ← request (.readText path) with
  | .error reason => return .error reason
  | .ok text => return .ok (containsEither text output)

end Assay.Suite
