import Assay.Shell.Builtin.Basic
import Assay.Shell.Parser

/-!
# Variables, arguments and options

The commands that change what a shell knows: its variables, its arguments, its options, and the
words that stand for others.
-/

namespace Assay.Shell

/-- An argument that may assign: its name, and the value behind the sign if there is one. -/
def assigned (arg : String) : String × Option String :=
  let name := arg.toList.takeWhile (· ≠ '=')
  match arg.toList.drop name.length with
  | [] => (arg, none)
  | _ :: value => (String.ofList name, some (String.ofList value))

/-- Refuses what is no name of a variable. -/
def neededName (name : String) : Eval Unit := do
  if !isName name.toList then fatal (name ++ ": bad variable name")

/-- The lines that tell of variables with a property, each with a command in front. -/
def variableLines (s : Session) (command : String) (valued : Bool)
    (shown : Variable → Bool) : List String :=
  (sortedVariables s).filterMap fun (name, v) =>
    if !shown v then none
    else match v.value with
      | some value => some (command ++ name ++ "=" ++ scriptQuoted value)
      | none => if valued then none else some (command ++ name)

/-- `set` sets the options and the arguments; without any it prints the variables. -/
def setOptions : Utility := fun args => do
  if args.isEmpty then
    printLines (variableLines (← shell) "" true fun _ => true)
    return 0
  match optionChange (← shell).settings args with
  | .error message => fatal message
  | .ok c =>
    changeShell fun s => { s with settings := c.options }
    printLines c.listing
    if let some args := c.args then
      changeShell fun s => { s with args, optionNext := 1, optionPlace := none }
    return 0

/-- `export` and `readonly` mark variables; without names they print those that are marked. -/
def markVariables (command : String) (mark : Variable → Variable) (marked : Variable → Bool) :
    Utility :=
  withLetters "p" "" fun o => do
    if o.has 'p' || o.operands.isEmpty then
      printLines (variableLines (← shell) (command ++ " ") false marked)
      return 0
    for arg in o.operands do
      let (name, value) := assigned arg
      neededName name
      if let some value := value then setVariable name value
      changeShell fun s =>
        let v := (s.bindings.lookup name).getD { value := none }
        { s with bindings := putVariable name (mark v) s.bindings }
    return 0

/-- `export` passes variables on to programs. -/
def exportNames : Utility :=
  markVariables "export" ({ · with exported := true }) Variable.exported

/-- `readonly` keeps variables as they are. -/
def fixNames : Utility :=
  markVariables "readonly" ({ · with fixed := true }) Variable.fixed

/-- `local` gives a function variables for itself, and on demand options. -/
def localNames : Utility := fun args => do
  if (← shell).locals.isNone then fatal "not in a function"
  for arg in args do
    if arg = "-" then
      changeShell fun s => { s with ownSettings := s.ownSettings <|> some s.settings }
    else
      let (name, value) := assigned arg
      neededName name
      changeShell fun s =>
        { s with locals := s.locals.map ((name, s.bindings.lookup name) :: ·) }
      if let some value := value then setVariable name value
  return 0

/-- `unset` takes variables away, or functions. -/
def unset : Utility :=
  withLetters "vf" "" fun o => do
    let functions := (o.letters.getLast?.map Prod.fst) = some 'f'
    for name in o.operands do
      if functions then
        changeShell fun s => { s with functions := s.functions.filter (·.1 ≠ name) }
      else
        neededName name
        unsetVariable name
    return 0

/-- `shift` takes arguments away at the front. -/
def shiftArgs : Utility := fun args => do
  let n ← firstNumber 1 args
  if n > (← shell).args.length then fatal "can't shift that many"
  changeShell fun s =>
    { s with args := s.args.drop n, optionNext := 1, optionPlace := none }
  return 0

/-! ## Words that stand for others -/

/-- The line that tells what an alias stands for. -/
def aliasLine (name text : String) : String :=
  name ++ "=" ++ scriptQuoted text

/-- `alias` lets words stand for others, and tells for which. -/
def setAliases : Utility := fun args => do
  if args.isEmpty then
    let aliases := (← shell).aliases
    for name in inTableOrder 39 (aliases.map Prod.fst) do
      printLine (aliasLine name ((aliases.lookup name).getD ""))
    return 0
  let mut status := 0
  for arg in args do
    let first := arg.toList.take 1
    let name := first ++ (arg.toList.drop 1).takeWhile (· ≠ '=')
    match arg.toList.drop name.length with
    | _ :: text =>
      let name := String.ofList name
      let text := String.ofList text
      changeShell fun s =>
        { s with aliases :=
            if (s.aliases.lookup name).isSome then
              s.aliases.map fun a => if a.1 = name then (name, text) else a
            else s.aliases ++ [(name, text)] }
    | [] =>
      match (← shell).aliases.lookup arg with
      | some text => printLine (aliasLine arg text)
      | none =>
        complain ("alias: " ++ arg ++ " not found")
        status := 1
  return status

/-- `unalias` lets words stand for themselves again. -/
def unsetAliases : Utility :=
  withLetters "a" "" fun o => do
    if o.has 'a' then
      changeShell fun s => { s with aliases := [] }
      return 0
    let mut status := 0
    for name in o.operands do
      if ((← shell).aliases.lookup name).isSome then
        changeShell fun s => { s with aliases := s.aliases.filter (·.1 ≠ name) }
      else
        complain ("unalias: " ++ name ++ " not found")
        status := 1
    return status

/-- `ulimit` tells that there are no limits. -/
def ulimit : Utility :=
  withLetters "HStfdscmlpnvwra" "" fun o => do
    let last := (o.letters.filter fun l => l.1 ≠ 'H' && l.1 ≠ 'S').getLast?.map Prod.fst
    if o.operands.isEmpty then
      printLine (if last = some 'c' then "0" else if last = some 's' then "8192" else "unlimited")
    return 0

/-- `times` tells how much time was used, which is none. -/
def times : Utility := fun _ => do
  let none := "0m0.000000s 0m0.000000s"
  printLines [none, none]
  return 0

end Assay.Shell
