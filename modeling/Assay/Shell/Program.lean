import Assay.Utility.Basic

/-!
# Programs

A file that may be executed is a program. One whose contents are a mark and a name is the utility of
that name; one that begins with a line naming an interpreter is run by that one; any other is read
by the shell. A name without a slash leads to the first program of that name on the search path.
-/

namespace Assay.Shell

open Machine Host

/-- A utility with its arguments, the one at the front being the name by which it was called. -/
structure Call where
  utility : String
  name : String
  args : List String

/-- What the contents of a utility begin with. -/
def utilityMark : List UInt8 :=
  [0x7f, 0x45, 0x4c, 0x46]

/-- The file that is the utility of a name. -/
def utilityFile (name : String) : Tree :=
  .file 0o755 ⟨(utilityMark ++ textBytes name).toArray⟩

/-- The shell's own path. -/
def shellPath : String :=
  "/bin/sh"

/-- The words of a line that names an interpreter: its path, and at most one argument. -/
def interpreterWords (line : List Char) : List String :=
  let isBlank (c : Char) : Bool := c == ' ' || c == '\t'
  let line := (line.reverse.dropWhile isBlank).reverse.dropWhile isBlank
  let path := line.takeWhile (!isBlank ·)
  let arg := (line.dropWhile (!isBlank ·)).dropWhile isBlank
  String.ofList path :: if arg.isEmpty then [] else [String.ofList arg]

/-- The utility that runs in the end when a program is called; interpreters may name each other up
to some depth. -/
def load (w : World) (here : List String) :
    (depth : Nat) → (path name : String) → (args : List String) → Except Fault Call
  | 0, _, _, _ => .error .linkLoop
  | depth + 1, path, name, args => do
    match ← find w.root here true path with
    | (_, .file mode contents) =>
      if !maySearch mode then throw .denied
      let bytes := contents.toList
      if bytes.take 4 = utilityMark then
        let utility := Text.decodeLossy ⟨(bytes.drop 4).toArray⟩
        if utility.isEmpty then throw .badFormat
        return { utility, name, args }
      else if bytes.take 2 = textBytes "#!" then
        let line := (Text.decodeLossy contents).toList.drop 2 |>.takeWhile (· ≠ '\n')
        match interpreterWords line with
        | interpreter :: more =>
          if interpreter.isEmpty then throw .badFormat
          load w here depth interpreter interpreter (more ++ path :: args)
        | [] => throw .badFormat
      else return { utility := "sh", name := shellPath, args := path :: args }
    | _ => throw .denied

/-- The utility that runs when a program at a path is called by a name. -/
def callOf (path name : String) (args : List String) : Eval (Except Fault Call) := do
  let s ← get
  return load s.world s.shell.directory 5 path name args

/-! ## The search path -/

/-- A name in a directory of the search path, of which an empty one stands for the working
directory. -/
def inDirectory (directory name : String) : String :=
  if directory.isEmpty then name
  else if directory.endsWith "/" then directory ++ name
  else directory ++ "/" ++ name

/-- The search path of a shell that has none. -/
def defaultPath : String :=
  "/usr/local/sbin:/usr/local/bin:/usr/sbin:/usr/bin:/sbin:/bin"

/-- The paths to which a name may lead in the directories of a search path, or itself if it has a
slash. -/
def candidatesIn (path name : String) : List String :=
  if name.toList.contains '/' then [name]
  else (Text.splitAt ':' path.toList).map fun d => inDirectory (String.ofList d) name

/-- The paths to which a name may lead. -/
def candidates (name : String) : Eval (List String) := do
  return candidatesIn ((← valueOf "PATH").getD "") name

/-- Whether a program stands at a path. -/
def isProgram (s : State) (path : String) : Bool :=
  match find s.world.root s.shell.directory true path with
  | .ok (_, .file mode _) => maySearch mode
  | _ => false

/-- The call of the first program of some paths. Of several faults the last one counts that is not
the program being missing. -/
def firstCall (name : String) (args : List String) :
    (fault : Fault) → (paths : List String) → Eval (Except Fault Call)
  | fault, [] => return .error fault
  | fault, path :: rest => do
    match ← callOf path name args with
    | .ok call => return .ok call
    | .error .missing | .error .notDirectory => firstCall name args fault rest
    | .error f => firstCall name args f rest

/-- The call of a program by its name, for a utility that runs it. -/
def findProgram (name : String) (args : List String) : Eval (Except Fault Call) := do
  firstCall name args .missing (← candidates name)

/-- Why a program is not run: what is said about it, and the status. -/
structure Refusal where
  words : String
  status : Nat

/-- What a fault of a program that was found means. -/
def Refusal.ofFault (f : Fault) : Refusal :=
  match f with
  | .missing | .notDirectory => ⟨"not found", 127⟩
  | .linkLoop | .nameTooLong => ⟨f.words, 127⟩
  | f => ⟨f.words, 126⟩

/-- The fault that keeps a file at a path from being looked at, or else the refusal of what is no
program. -/
def lookFault (s : State) (path : String) (fault : Fault) : Fault :=
  match find s.world.root s.shell.directory true path with
  | .ok _ => .denied
  | .error .missing | .error .notDirectory => fault
  | .error f => f

/-- The call of a program by its name, looked for in the directories of a search path. -/
def searchProgram (path name : String) (args : List String) : Eval (Except Refusal Call) := do
  let s ← get
  if name.toList.contains '/' then
    return (← callOf name name args).mapError Refusal.ofFault
  else
    let paths := candidatesIn path name
    match paths.dropWhile (!isProgram s ·) with
    | [] =>
      let fault := paths.foldl (fun fault p => lookFault s p fault) .missing
      let words := match fault with
        | .missing => "not found"
        | f => f.words
      return .error ⟨words, 127⟩
    | found =>
      changeShell fun sh => { sh with located := sh.located.filter (· ≠ name) ++ [name] }
      return (← firstCall name args .missing found).mapError Refusal.ofFault

/-- `which` prints the paths of programs. -/
def which : Utility := fun args => do
  let (every, args) := match args with
    | "-a" :: rest => (true, rest)
    | args => (false, args)
  match args.find? fun a => a.startsWith "-" && a ≠ "-" && a ≠ "--" with
  | some a =>
    complain ("Illegal option -" ++ String.ofList ((a.toList.drop 1).take 1))
    printLine "Usage: /usr/bin/which [-as] args"
    return 2
  | none =>
    let names := args.filter (· ≠ "--")
    let mut status := if names.isEmpty then 1 else 0
    for name in names do
      let s ← get
      let found := ((← candidates name).map fun p =>
        if p = name && !name.toList.contains '/' then "./" ++ p else p).filter (isProgram s)
      if found.isEmpty then status := 1
      for path in if every then found else found.take 1 do printLine path
    return status

end Assay.Shell
