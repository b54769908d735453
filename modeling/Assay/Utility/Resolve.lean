import Assay.Utility.Change
import Assay.Utility.Name

/-!
# Where paths lead

`readlink` prints what links hold, or like `realpath` the path without links that a path leads to.
Whether what a path leads to has to be there can be chosen.
-/

namespace Assay.Shell

open Machine Host

/-- What has to be there: nothing, all but the last name, or everything. -/
inductive Presence where
  | nothing
  | parent
  | everything
deriving DecidableEq

/-- The path that names write from the root on. -/
def rootPath (names : List String) : String :=
  "/" ++ "/".intercalate names

/-- Names without those that lead nowhere, and without those that lead back with what is in front of
them; `done` are the names so far, the last one first. -/
def plainNames (done : List String) : List String → List String
  | [] => done.reverse
  | "" :: rest | "." :: rest => plainNames done rest
  | ".." :: rest => plainNames done.tail rest
  | name :: rest => plainNames (name :: done) rest

/-- The names of a path from the root on, as it is written. -/
def namesWritten (here : List String) (path : String) : List String :=
  let names := (Text.splitAt '/' path.toList).map String.ofList
  plainNames (if path.startsWith "/" then [] else here.reverse) names

/-- The names that lead to what a path leads to, as far as it is there; the others as they are
written, from left to right. -/
def loosely (root : Tree) (done : List String) : List String → List String
  | [] => done
  | "" :: rest | "." :: rest => loosely root done rest
  | ".." :: rest => loosely root done.dropLast rest
  | name :: rest =>
    match resolve root done true name with
    | .ok (.found names _) => loosely root names rest
    | .ok (.hole dir last _) => loosely root (dir ++ [last]) rest
    | .error _ => loosely root (done ++ [name]) rest

/-- The names that lead to what a path leads to. -/
def destination (presence : Presence) (path : String) : Eval (Except Fault (List String)) := do
  let s ← get
  let root := s.world.root
  let here := s.shell.directory
  if path.isEmpty then return .error .missing
  match presence with
  | .nothing =>
    let names := (Text.splitAt '/' path.toList).map String.ofList
    return .ok (loosely root (if path.startsWith "/" then [] else here) names)
  | .everything => return (find root here true path).map Prod.fst
  | .parent =>
    match resolve root here true path with
    | .ok (.found names _) => return .ok names
    | .ok (.hole dir name _) => return .ok (dir ++ [name])
    | .error fault => return .error fault

/-- What has to be there as options say. -/
def presenceOf (o : Options) (default : Presence) : Presence :=
  o.letters.foldl
    (fun p l =>
      match l.1 with
      | 'f' | 'E' => .parent
      | 'e' => .everything
      | 'm' => .nothing
      | _ => p)
    default

/-- `readlink` prints what links hold, or where paths lead. -/
def readlink : Utility :=
  withOptions "readlink" "femnqsvz" "" 1
    (fun o => do
      if o.operands.isEmpty then
        misused "readlink" "missing operand"
        return 1
      let several := o.operands.length > 1
      if several && o.has 'n' then
        complain "readlink: ignoring --no-newline with multiple arguments"
      let finish := if o.has 'n' && !several then "" else if o.has 'z' then "\x00" else "\n"
      let failed (path : String) (fault : String) : Eval Bool := do
        if o.has 'v' then complain ("readlink: " ++ shownName path ++ ": " ++ fault)
        return false
      forOperands (fun path => do
        if o.has 'f' || o.has 'e' || o.has 'm' then
          match ← destination (presenceOf o .parent) path with
          | .ok names =>
            print (rootPath names ++ finish)
            return true
          | .error fault => failed path fault.words
        else
          match ← partOf false path with
          | .ok (_, .link text) =>
            print (text ++ finish)
            return true
          | .ok _ => failed path "Invalid argument"
          | .error fault => failed path fault.words) o.operands)
    [("canonicalize", 'f'), ("canonicalize-existing", 'e'), ("canonicalize-missing", 'm'),
      ("no-newline", 'n'), ("quiet", 'q'), ("silent", 's'), ("verbose", 'v'), ("zero", 'z')]

/-- The path that leads from one place to another one. -/
def pathBetween (start target : List String) : String :=
  let common := ((start.zip target).takeWhile fun t => t.1 = t.2).length
  let names := List.replicate (start.length - common) ".." ++ target.drop common
  if names.isEmpty then "." else "/".intercalate names

/-- `realpath` prints where paths lead. -/
def realpath : Utility :=
  withOptions "realpath" "EemLPqsz" "RB" 1
    (fun o => do
      if o.operands.isEmpty then
        misused "realpath" "missing operand"
        return 1
      let s ← get
      let presence := presenceOf o .parent
      let names (path : String) : Eval (Except Fault (List String)) := do
        if o.has 's' && !path.isEmpty then return .ok (namesWritten s.shell.directory path)
        else if o.has 'L' then
          destination presence (rootPath (namesWritten s.shell.directory path))
        else destination presence path
      let mut start : List (Option (List String)) := []
      for c in ['R', 'B'] do
        match o.value? c with
        | none => start := start ++ [none]
        | some path =>
          match ← names path with
          | .ok ns => start := start ++ [some ns]
          | .error fault =>
            unreadable "realpath" path fault
            throw (Stop.exit 1)
      let base := ((start[1]?).join).getD []
      let relative := if o.has 'R' then start.head?.join else (start[1]?).join
      forOperands (fun path => do
        match ← names path with
        | .error fault =>
          if !o.has 'q' then
            complain ("realpath: " ++ (if path.isEmpty then "''" else shownName path) ++ ": " ++
              fault.words)
          return false
        | .ok ns =>
          let shown := match relative with
            | some ds =>
              if base.isPrefixOf ns && base.isPrefixOf ds then pathBetween ds ns else rootPath ns
            | none => rootPath ns
          print (shown ++ if o.has 'z' then "\x00" else "\n")
          return true) o.operands)
    [("canonicalize", 'E'), ("canonicalize-existing", 'e'), ("canonicalize-missing", 'm'),
      ("logical", 'L'), ("physical", 'P'), ("quiet", 'q'), ("strip", 's'), ("no-symlinks", 's'),
      ("zero", 'z'), ("relative-to", 'R'), ("relative-base", 'B')]

end Assay.Shell
