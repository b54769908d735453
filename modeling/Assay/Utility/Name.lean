import Assay.Utility.Basic

/-!
# Names and lengths of time

`basename` and `dirname` take paths apart, `sleep` lets time pass, and some utilities tell what they
always tell.
-/

namespace Assay.Shell

open Host

/-- The last name of a path; a path of slashes is its own. -/
def lastName (path : String) : String :=
  match ((Text.splitAt '/' path.toList).filter (!·.isEmpty)).getLast? with
  | some n => String.ofList n
  | none => if path.isEmpty then "" else "/"

/-- A name without an ending, unless that is all of it. -/
def withoutEnding (ending name : String) : String :=
  if name ≠ ending && !ending.isEmpty && name.endsWith ending
    then String.ofList (name.toList.take (name.length - ending.length)) else name

/-- `basename` prints the last names of paths, without an ending. -/
def basename : Utility :=
  withOptions "basename" "az" "s"  1
    (fun o => do
      let finish := if o.has 'z' then "\x00" else "\n"
      match o.operands with
      | [] =>
        misused "basename" "missing operand"
        return 1
      | path :: more =>
        if o.has 'a' || o.has 's' then
          for p in path :: more do
            print (withoutEnding ((o.value? 's').getD "") (lastName p) ++ finish)
          return 0
        else match more with
          | _ :: extra :: _ =>
            misused "basename" ("extra operand " ++ quotedName extra)
            return 1
          | more =>
            print (withoutEnding (more.head?.getD "") (lastName path) ++ finish)
            return 0)
    [("multiple", 'a'), ("suffix", 's'), ("zero", 'z')]

/-- A path without its last name. -/
def parentName (path : String) : String :=
  let bare := (path.toList.reverse.dropWhile (· = '/')).reverse
  let front := (bare.reverse.dropWhile (· ≠ '/')).dropWhile (· = '/')
  if !front.isEmpty then String.ofList front.reverse
  else if path.startsWith "/" then "/" else "."

/-- `dirname` prints paths without their last names. -/
def dirname : Utility :=
  withOptions "dirname" "z" "" 1
    (fun o => do
      if o.operands.isEmpty then
        misused "dirname" "missing operand"
        return 1
      for path in o.operands do
        print (parentName path ++ if o.has 'z' then "\x00" else "\n")
      return 0)
    [("zero", 'z')]

/-- The nanoseconds that a length of time writes, with a unit or none. -/
def timeLength? (s : String) : Option Nat :=
  let cs := s.toList
  let (unit, digits) := match cs.getLast? with
    | some 's' => (1, cs.dropLast)
    | some 'm' => (60, cs.dropLast)
    | some 'h' => (3600, cs.dropLast)
    | some 'd' => (86400, cs.dropLast)
    | _ => (1, cs)
  let whole := digits.takeWhile Char.isDigit
  let rest := digits.drop whole.length
  let parts := match rest with
    | [] => some []
    | '.' :: ds => if ds.all Char.isDigit then some (ds.take 9) else none
    | _ => none
  match parts with
  | none => none
  | some ds =>
    if whole.isEmpty && ds.isEmpty then none
    else
      let nanoseconds := decimalValue ds * Nat.pow 10 (9 - ds.length)
      some (unit * (decimalValue whole * Nat.pow 10 9 + nanoseconds))

/-- `sleep` lets time pass. -/
def sleep : Utility :=
  withOptions "sleep" "" "" 1 fun o => do
    if o.operands.isEmpty then
      misused "sleep" "missing operand"
      return 1
    let wrong := o.operands.filter fun a => (timeLength? a).isNone
    if wrong.isEmpty then
      pass ((o.operands.filterMap timeLength?).foldl (· + ·) 0)
      return 0
    else
      for a in wrong do complain ("sleep: invalid time interval " ++ quotedName a)
      complain "Try 'sleep --help' for more information."
      return 1

/-- A utility that prints a line whatever it is called with. -/
def always (line : String) : Utility := fun _ => do
  printLine line
  return 0

/-- `id` tells who runs it. -/
def identity : Utility :=
  withOptions "id" "ugnGr" "" 1 fun o => do
    let named := o.has 'n'
    printLine <|
      if o.has 'u' || o.has 'g' || o.has 'G' then (if named then "root" else "0")
      else "uid=0(root) gid=0(root) groups=0(root)"
    return 0

/-- `uname` tells about the system. -/
def uname : Utility :=
  withOptions "uname" "asnrvmpio" "" 1 fun o => do
    printLine <|
      if o.has 'm' then "x86_64" else if o.has 'o' then "GNU/Linux" else "Linux"
    return 0

/-- `printenv` prints the variables that are passed on, or the values of some of them. -/
def printenv : Utility := fun args => do
  let passed := (← shell).bindings.filter (·.2.exported)
  match args with
  | [] =>
    for (name, v) in passed.reverse do
      if let some value := v.value then printLine (name ++ "=" ++ value)
    return 0
  | names =>
    let mut status := 0
    for name in names do
      match (passed.lookup name).bind Variable.value with
      | some value => printLine value
      | none => status := 1
    return status

/-- `nproc` tells how many processors there are. -/
def nproc : Utility :=
  always "1"

/-- `tty` names the terminal, which there is none of. -/
def tty : Utility := fun args => do
  if !args.contains "-s" then printLine "not a tty"
  return 1

end Assay.Shell
