import Assay.Host.Plan
import Assay.Machine.Tree
import Assay.Text.Bytes

/-!
# Files by their paths

A path leads from the root or from the working directory through directories and links to a part of
the tree, or to a place where something could be made. On the way every directory must permit
getting at what is in it, and at most forty links are followed. The operations on files are what a
POSIX system offers, with its faults.
-/

namespace Assay.Machine

open Host

/-- Where a path leads to. -/
inductive Place where
  /-- A part of the tree, and the names that lead to it from the root. -/
  | found (path : List String) (t : Tree)
  /-- A name that a directory does not have; `slash` says whether a slash stood behind it. -/
  | hole (directory : List String) (name : String) (slash : Bool)

/-- The names in a path; an empty one at the end stands for a slash there. -/
def names (path : String) : List String :=
  let pieces := (Text.splitAt '/' path.toList).map String.ofList
  pieces.filter (· ≠ "") ++ if pieces.length > 1 && pieces.getLast? = some "" then [""] else []

/-- The most links that are followed on a path. -/
def maxLinks : Nat := 40

/-- The most bytes of a name. -/
def maxName : Nat := 255

/-- The number of bytes below which a path must stay. -/
def maxPath : Nat := 4096

/-- Follows names from a directory. A link at the end is followed if `follow` holds or a slash
stands behind it. -/
def walk (root : Tree) (follow : Bool) (links : Nat) (here : List String) (todo : List String) :
    Except Fault Place :=
  match root.get? here, todo with
  | none, _ => .error .missing
  | some t, [] => .ok (.found here t)
  | some (.dir mode es), name :: rest =>
    if !maySearch mode then .error .denied
    else if name = "." || name = "" then walk root follow links here rest
    else if name = ".." then walk root follow links here.dropLast rest
    else if name.utf8ByteSize > maxName then .error .nameTooLong
    else
      match es.lookup name with
      | none =>
        if rest = [] then .ok (.hole here name false)
        else if rest = [""] then .ok (.hole here name true)
        else .error .missing
      | some (.link target) =>
        if rest = [] && !follow then .ok (.found (here ++ [name]) (.link target))
        else
          match links with
          | 0 => .error .linkLoop
          | links + 1 =>
            walk root follow links (if target.startsWith "/" then [] else here)
              (names target ++ rest)
      | some _ => walk root follow links (here ++ [name]) rest
  | some _, _ :: _ => .error .notDirectory
termination_by (links, todo.length)

/-- Follows a path from a working directory. -/
def resolve (root : Tree) (cwd : List String) (follow : Bool) (path : String) :
    Except Fault Place :=
  if path.isEmpty then .error .missing
  else if path.toList.contains '\x00' then .error .zeroInPath
  else if path.utf8ByteSize ≥ maxPath then .error .nameTooLong
  else walk root follow maxLinks (if path.startsWith "/" then [] else cwd) (names path)

/-- A part of a tree at a path, and the names that lead to it. -/
def find (root : Tree) (cwd : List String) (follow : Bool) (path : String) :
    Except Fault (List String × Tree) := do
  match ← resolve root cwd follow path with
  | .found p t => return (p, t)
  | .hole .. => .error .missing

/-- What stands at a path, links followed. -/
def stat (root : Tree) (cwd : List String) (path : String) : Except Fault Stat := do
  match ← find root cwd true path with
  | (_, .dir ..) => return { isDir := true, isFile := false, size := 4096 }
  | (_, .file _ c) => return { isDir := false, isFile := true, size := c.size }
  | _ => return { isDir := false, isFile := false, size := 0 }

/-- The names in a directory. -/
def list (root : Tree) (cwd : List String) (path : String) : Except Fault (List String) := do
  match ← find root cwd true path with
  | (_, .dir mode es) => if mayRead mode then return es.map Prod.fst else .error .denied
  | _ => .error .notDirectory

/-- The contents of a file. -/
def read (root : Tree) (cwd : List String) (path : String) : Except Fault ByteArray := do
  match ← find root cwd true path with
  | (_, .file mode c) => if mayRead mode then return c else .error .denied
  | (_, .dir mode _) => .error (if mayRead mode then .isDirectory else .denied)
  | (_, .device .terminal) => .error .noDevice
  | _ => return ⟨#[]⟩

/-- The text of a file. -/
def readText (root : Tree) (cwd : List String) (path : String) : Except Fault String := do
  match Text.decode? (← read root cwd path) with
  | some text => return text
  | none => .error .notText

/-- Whether entries can be put into and taken out of the directory that names lead to. -/
def mayChange (root : Tree) (path : List String) : Bool :=
  match root.get? path with
  | some (.dir mode _) => mayWrite mode && maySearch mode
  | _ => false

/-- The bits of new files. -/
def fileMode : Nat := 0o644

/-- The bits of new directories. -/
def dirMode : Nat := 0o755

/-- What is opened to be written: a file, by the names that lead to it, or a device. -/
inductive Target where
  | file (path : List String)
  | device (d : Device)

/-- Opens a path to be written. A file that is missing is made with a mode; what a file holds is
dropped if `truncate` holds. -/
def openToWrite (root : Tree) (cwd : List String) (mode : Nat) (truncate : Bool) (path : String) :
    Except Fault (Target × Tree) := do
  match ← resolve root cwd true path with
  | .found p (.file bits c) =>
    if mayWrite bits then
      return (.file p, root.replace p (.file bits (if truncate then ⟨#[]⟩ else c)))
    else .error .denied
  | .found _ (.dir ..) => .error .isDirectory
  | .found _ (.device .terminal) => .error .noDevice
  | .found _ (.device d) => return (.device d, root)
  | .found _ (.link _) => .error .linkLoop
  | .hole _ _ true => .error .isDirectory
  | .hole dir name false =>
    if mayChange root dir then
      return (.file (dir ++ [name]), root.insert dir name (.file mode ⟨#[]⟩))
    else .error .denied

/-- Appends to the file that names lead to. -/
def append (root : Tree) (path : List String) (bytes : ByteArray) : Tree :=
  match root.get? path with
  | some (.file mode c) => root.replace path (.file mode (c ++ bytes))
  | _ => root

/-- Appends to what was opened; a full device takes nothing. -/
def appendTo (root : Tree) (target : Target) (bytes : ByteArray) : Except Fault Tree :=
  match target with
  | .file p => .ok (append root p bytes)
  | .device .full => if bytes.size = 0 then .ok root else .error .noSpace
  | .device _ => .ok root

/-- Writes a file, in the place of what it held. -/
def write (root : Tree) (cwd : List String) (path : String) (bytes : ByteArray) :
    Except Fault Tree := do
  let (target, root) ← openToWrite root cwd fileMode true path
  appendTo root target bytes

/-- Makes a directory with a mode. -/
def makeDir (root : Tree) (cwd : List String) (mode : Nat) (path : String) :
    Except Fault Tree := do
  match ← resolve root cwd false path with
  | .found .. => .error .alreadyThere
  | .hole dir name _ =>
    if mayChange root dir then return root.insert dir name (.dir mode []) else .error .denied

/-- Whether a directory stands at a path. -/
def isDirAt (root : Tree) (cwd : List String) (path : String) : Bool :=
  match stat root cwd path with
  | .ok s => s.isDir
  | .error _ => false

/-- Makes a directory; one that is there already is as good. -/
def ensureDir (root : Tree) (cwd : List String) (path : String) : Except Fault Tree :=
  match makeDir root cwd dirMode path with
  | .ok root => .ok root
  | .error fault => if isDirAt root cwd path then .ok root else .error fault

/-- Makes the last of some directories, each the parent of the one in front of it, and first those
behind it if it cannot be made without. The tree that is left is also told at a fault. -/
def ensureDirs (root : Tree) (cwd : List String) : List Path → Tree × Option Fault
  | [] => (root, none)
  | path :: parents =>
    if path.text.isEmpty then (root, none)
    else
      match ensureDir root cwd path.text with
      | .ok root => (root, none)
      | .error .missing =>
        match ensureDirs root cwd parents with
        | (root, some fault) => (root, some fault)
        | (root, none) =>
          match ensureDir root cwd path.text with
          | .ok root => (root, none)
          | .error fault => (root, some fault)
      | .error fault => (root, some fault)

/-- Makes a directory and those above it that are missing. -/
def createDirs (root : Tree) (cwd : List String) (path : Path) : Tree × Option Fault :=
  ensureDirs root cwd path.ancestors

/-- Removes what is no directory. -/
def unlink (root : Tree) (cwd : List String) (path : String) : Except Fault Tree := do
  match ← find root cwd false path with
  | (_, .dir ..) => .error .isDirectory
  | (p, _) => if mayChange root p.dropLast then return root.erase p else .error .denied

/-- Removes a directory with all that is in it; of a link only the link. The tree that is left is
also told at a fault. -/
def removeAll (root : Tree) (cwd : List String) (path : String) : Tree × Option Fault :=
  match find root cwd false path with
  | .error fault => (root, some fault)
  | .ok (p, .link _) =>
    if mayChange root p.dropLast then (root.erase p, none) else (root, some .denied)
  | .ok (p, .dir m es) =>
    match Tree.clear (.dir m es) with
    | (t, some fault) => (root.replace p t, some fault)
    | (t, none) =>
      if mayChange root p.dropLast then (root.erase p, none)
      else (root.replace p t, some .denied)
  | .ok _ => (root, some .notDirectory)

/-- Sets permissions throughout the tree at a path. -/
def setPermission (root : Tree) (cwd : List String) (path : String) (p : Permission) :
    Tree × Option Fault :=
  match find root cwd false path with
  | .error fault => (root, some fault)
  | .ok (names, t) =>
    let (t, fault) := Tree.setPermission p t
    (root.replace names t, fault)

end Assay.Machine
