import Assay.Machine.Disk

/-!
# Surveys of trees

What the owner sees of the tree at a path, each part with its path from there: a directory in front
of what is in it, and nothing of what is in a directory that cannot be listed and searched.
-/

namespace Assay.Machine

open Host

namespace Tree

mutual

/-- A part of a tree with a path, and what is seen below it. -/
def survey (path : String) : Tree → List (String × Tree)
  | .dir mode es =>
    (path, .dir mode es) ::
      if mayRead mode && maySearch mode then surveyEntries path es else []
  | t => [(path, t)]

/-- What is seen of entries behind a path. -/
def surveyEntries (path : String) : List (String × Tree) → List (String × Tree)
  | [] => []
  | (name, t) :: rest => survey (path ++ "/" ++ name) t ++ surveyEntries path rest

end

end Tree

/-- What is seen of the tree at a path, in the order of the paths from there. -/
def surveyAt (root : Tree) (cwd : List String) (path : String) : List (String × Tree) :=
  match find root cwd false path with
  | .ok (_, t) => (t.survey ".").mergeSort fun a b => a.1 ≤ b.1
  | .error _ => []

/-- Changes the mode of the part at a path. -/
def changeMode (root : Tree) (cwd : List String) (mode : Nat) (path : String) : Tree :=
  match find root cwd true path with
  | .ok (names, .file _ c) => root.replace names (.file mode c)
  | .ok (names, .dir _ es) => root.replace names (.dir mode es)
  | _ => root

/-- Makes a link at a path where nothing is yet. -/
def makeLink (root : Tree) (cwd : List String) (target path : String) : Except Fault Tree := do
  match ← resolve root cwd false path with
  | .found .. => throw .alreadyThere
  | .hole dir name _ =>
    if mayChange root dir then return root.insert dir name (.link target) else throw .denied

/-- Removes what is at a path, whatever it is. -/
def removeAny (root : Tree) (cwd : List String) (path : String) : Tree × Option Fault :=
  match find root cwd false path with
  | .ok (_, .dir ..) => removeAll root cwd path
  | _ =>
    match unlink root cwd path with
    | .ok root => (root, none)
    | .error fault => (root, some fault)

end Assay.Machine
