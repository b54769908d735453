import Assay.Shell.Parser
import Assay.Shell.Program
import Assay.Shell.Builtin.Basic

/-!
# What names mean

A name in the place of a command is a word of the syntax, stands for other words, or is a function,
a command of the shell itself, or a program. `type`, `command -v` and `command -V` tell what a name
is, and `hash` remembers programs.
-/

namespace Assay.Shell

open Machine

/-- The names of the commands of the shell itself. -/
def builtinNames : List String :=
  specialNames ++ ["alias", "bg", "cd", "chdir", "command", "echo", "false", "fg", "getopts",
    "hash", "jobs", "kill", "printf", "pwd", "read", "test", "[", "true", "type", "ulimit",
    "umask", "unalias", "wait"]

/-- What a name means. -/
inductive Meaning where
  | reserved
  | aliased (text : String)
  | function
  /-- A command of the shell, which may be a special one. -/
  | builtin (special : Bool)
  /-- A program at a path, which may be remembered. -/
  | program (path : String) (remembered : Bool)

/-- What a name means, with programs looked for in the directories of a search path. -/
def meaningOf (s : State) (path name : String) : Option Meaning :=
  if reserved.contains name then some .reserved
  else match s.shell.aliases.lookup name with
    | some text => some (.aliased text)
    | none =>
      if (s.shell.functions.lookup name).isSome then some .function
      else if builtinNames.contains name then some (.builtin (specialNames.contains name))
      else if name.toList.contains '/' then
        match find s.world.root s.shell.directory true name with
        | .ok _ => some (.program name false)
        | .error _ => none
      else
        ((candidatesIn path name).find? (isProgram s)).map fun p =>
          .program p (s.shell.located.contains name)

/-- A meaning in words. -/
def Meaning.words : Meaning → String
  | .reserved => " is a shell keyword"
  | .aliased text => " is an alias for " ++ text
  | .function => " is a shell function"
  | .builtin special => " is a " ++ (if special then "special " else "") ++ "shell builtin"
  | .program path remembered =>
    " is " ++ (if remembered then "a tracked alias for " else "") ++ path

/-- Prints what a name means, in words or briefly. -/
def describeName (path : String) (brief : Bool) (name : String) : Eval Nat := do
  match meaningOf (← get) path name with
  | none =>
    if !brief then printLine (name ++ ": not found")
    return 127
  | some m =>
    if brief then
      printLine <| match m with
        | .aliased text => "alias " ++ name ++ "=" ++ scriptQuoted text
        | .program path _ => path
        | _ => name
    else printLine (name ++ m.words)
    if let .program p _ := m then
      if p ≠ name || !name.toList.contains '/' then
        changeShell fun sh => { sh with located := sh.located.filter (· ≠ name) ++ [name] }
    return 0

/-- `type` tells what names mean. -/
def describeNames : Utility := fun args => do
  let mut status := 0
  for name in args do
    let path := (← valueOf "PATH").getD ""
    let n ← describeName path false name
    status := status ||| n
  return status

/-- `command` with options that ask what a name means. -/
def explainCommand : Utility :=
  withLetters "pvV" "" fun o => do
    let own := (← valueOf "PATH").getD ""
    let path := if o.has 'p' then defaultPath else own
    match o.operands with
    | name :: _ =>
      if o.has 'V' then describeName path false name
      else if o.has 'v' then describeName path true name
      else return 0
    | [] => return 0

/-- `hash` remembers programs, and prints or forgets those that it remembers. -/
def rememberPrograms : Utility :=
  withLetters "r" "" fun o => do
    if o.has 'r' then
      changeShell fun s => { s with located := [] }
      return 0
    if o.operands.isEmpty then
      let s ← get
      for name in inTableOrder 31 s.shell.located do
        if let some path := (← candidates name).find? (isProgram s) then printLine path
      return 0
    let mut status := 0
    for name in o.operands do
      if builtinNames.contains name || name.toList.contains '/' then pure ()
      else
        let path := (← valueOf "PATH").getD ""
        match ← searchProgram path name [] with
        | .ok _ => pure ()
        | .error refusal =>
          if refusal.status = 127 && !((← shell).located.contains name) then
            complainAt (name ++ ": " ++ refusal.words)
            status := 1
    return status

end Assay.Shell
