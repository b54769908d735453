import Assay.Path

/-!
# The registry of workspaces

The workspaces that have been made and not yet been removed, in ascending order of their paths and
each of them once. Taking workspaces out is a single step, so that two cleanups never get hold of
the same one.
-/

namespace Assay

/-- The paths of workspaces, in ascending order. -/
abbrev Registry := List Path

namespace Registry

/-- The registry with a path in it. -/
def insert (path : Path) : Registry → Registry
  | [] => [path]
  | p :: rest =>
    match path.compare p with
    | .lt => path :: p :: rest
    | .eq => p :: rest
    | .gt => p :: insert path rest

/-- The registry without a path. -/
def erase (path : Path) (r : Registry) : Registry :=
  r.filter fun p => path.compare p ≠ .eq

/-- Whether a cleanup below `root` is about a path; a cleanup without a root is about all. -/
def selects (root : Option Path) (path : Path) : Bool :=
  match root with
  | none => true
  | some r => r.isUnder path

/-- The paths that a cleanup takes out, and the registry without them. -/
def take (root : Option Path) (r : Registry) : List Path × Registry :=
  r.partition (selects root)

end Registry

end Assay
