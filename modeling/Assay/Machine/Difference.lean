import Assay.Machine.Tree

/-!
# What has changed in a tree

The changes that make one survey of a tree into another one: what is gone is removed first, deeper
parts before those above them, and then directories are made and files are written from above.
-/

namespace Assay.Machine

/-- A change of the part at a path. -/
inductive Change where
  | removeFile (path : String)
  | removeDir (path : String)
  | makeDir (path : String)
  | writeFile (path : String) (contents : ByteArray)

/-- Whether two parts of trees are of one kind. -/
def Tree.sameKind : Tree → Tree → Bool
  | .file .., .file .. => true
  | .dir .., .dir .. => true
  | .link _, .link _ => true
  | .device _, .device _ => true
  | _, _ => false

/-- How what a survey does not have any more is removed. -/
def removal? (after : List (String × Tree)) : String × Tree → Option Change
  | (path, t) =>
    if (after.lookup path).any t.sameKind then none
    else match t with
      | .dir .. => some (.removeDir path)
      | _ => some (.removeFile path)

/-- How what is new in a survey, or has other contents, is made. -/
def making? (before : List (String × Tree)) : String × Tree → Option Change
  | (path, .dir ..) =>
    if (before.lookup path).any Tree.isDir then none else some (.makeDir path)
  | (path, .file _ new) =>
    match before.lookup path with
    | some (.file _ old) => if old.data == new.data then none else some (.writeFile path new)
    | _ => some (.writeFile path new)
  | _ => none

/-- The changes from one survey to another one, both in the order of their paths. -/
def changes (before after : List (String × Tree)) : List Change :=
  before.reverse.filterMap (removal? after) ++ after.filterMap (making? before)

end Assay.Machine
