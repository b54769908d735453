import Assay.Shell.Builtin.Basic
import Assay.Utility.Mode

/-!
# The directory of a shell

`cd` changes the directory and `pwd` prints it. A shell remembers by which path it came to its
directory, links included, and goes back along this path; on demand it follows links instead.
`umask` tells and changes which bits new files do not get.
-/

namespace Assay.Shell

open Machine Host

/-- The path to which another one leads from an absolute one, without points and empty names. Two
slashes at the front, but not three, are kept. -/
def pathFrom (here path : String) : String :=
  let double (p : String) : Bool := p.startsWith "//" && !p.startsWith "///"
  let start := if path.startsWith "/" then path else here
  let full := if path.startsWith "/" then path else here ++ "/" ++ path
  let names := ((Text.splitAt '/' full.toList).map String.ofList).foldl
    (fun names n =>
      if n = "" || n = "." then names
      else if n = ".." then names.dropLast
      else names ++ [n]) []
  (if double start then "//" else "/") ++ "/".intercalate names

/-- The path of directories without links. -/
def physicalPath (names : List String) : String :=
  "/" ++ "/".intercalate names

/-- Sets a variable and passes it on. -/
def exportValue (name value : String) : Eval Unit := do
  setVariable name value
  changeShell fun s =>
    { s with bindings := s.bindings.map fun (n, v) =>
        if n = name then (n, { v with exported := true }) else (n, v) }

/-- Makes a path the directory; whether that was possible. -/
def enter (physical : Bool) (dest : String) : Eval Bool := do
  let s ← get
  let path := if physical then dest else pathFrom s.shell.path dest
  match find s.world.root s.shell.directory true path with
  | .ok (names, .dir mode _) =>
    if maySearch mode then
      let path := if physical then physicalPath names else path
      changeShell fun sh => { sh with directory := names, path, located := [] }
      exportValue "OLDPWD" s.shell.path
      exportValue "PWD" path
      return true
    else return false
  | _ => return false

/-- Whether a path is looked for in the directories of `CDPATH`: unless it begins with a slash or
names the directory itself or the one above. -/
def isSearched (path : String) : Bool :=
  !(path.startsWith "/" || path = "." || path = ".." || path.startsWith "./" ||
    path.startsWith "../")

/-- `cd` changes the directory. -/
def cd : Utility :=
  withLetters "LP" "" fun o => do
    let physical := (o.letters.getLast?.map Prod.fst) = some 'P'
    let arg := o.operands.head?
    let target ← match arg with
      | none => valueOf "HOME"
      | some "-" => valueOf "OLDPWD"
      | some a => pure (some a)
    let dest := target.getD ""
    let dest := if dest.isEmpty then "." else dest
    let searched := (← valueOf "CDPATH").getD ""
    let places :=
      if isSearched dest then (Text.splitAt ':' searched.toList).map String.ofList else []
    let there ← places.findM? fun p => do
      let s ← get
      return isDirAt s.world.root s.shell.directory
        (if p.isEmpty then dest else childPathOf p dest)
    let path := match there with
      | some p => if p.isEmpty then dest else childPathOf p dest
      | none => dest
    if ← enter physical path then
      if arg = some "-" || there.any (!·.isEmpty) then printLine (← shell).path
      return 0
    else fatal ("can't cd to " ++ target.getD "")
where
  /-- A path in a directory. -/
  childPathOf (directory path : String) : String :=
    if directory.endsWith "/" then directory ++ path else directory ++ "/" ++ path

/-- `pwd` prints the directory. -/
def pwd : Utility :=
  withLetters "LP" "" fun o => do
    let physical := (o.letters.getLast?.map Prod.fst) = some 'P'
    let s ← shell
    printLine (if physical then physicalPath s.directory else s.path)
    return 0

/-- The value of `PWD` at the start: the old one if it leads to the working directory. -/
def startPath (s : State) : String :=
  let physical := physicalPath s.shell.directory
  match (s.shell.bindings.lookup "PWD").bind Variable.value with
  | some path =>
    match find s.world.root [] true path with
    | .ok (p, .dir ..) => if p = s.shell.directory && path.startsWith "/" then path else physical
    | _ => physical
  | none => physical

/-! ## The mask of new files -/

/-- A mask in four octal digits. -/
def maskDigits (mask : Nat) : String :=
  String.ofList ([mask / 512, mask / 64, mask / 8, mask].map fun n => Nat.digitChar (n % 8))

/-- What a mask permits, in letters. -/
def maskLetters (mask : Nat) : String :=
  let part (who : String) (n : Nat) : String :=
    let letter (bit : Nat) (c : Char) : List Char := if n.testBit bit then [] else [c]
    who ++ String.ofList (letter 2 'r' ++ letter 1 'w' ++ letter 0 'x')
  ",".intercalate [part "u=" (mask / 64 % 8), part "g=" (mask / 8 % 8), part "o=" (mask % 8)]

/-- `umask` prints or changes the mask of new files. -/
def umask : Utility :=
  withLetters "S" "" fun o => do
    let mask := (← shell).mask
    match o.operands with
    | [] =>
      printLine (if o.has 'S' then maskLetters mask else maskDigits mask)
      return 0
    | arg :: _ =>
      let digits := arg.toList
      if digits.head?.any Char.isDigit then
        if digits.all fun c => c.isDigit && c < '8' then
          let n := digits.foldl (fun n c => 8 * n + (c.toNat - 48)) 0
          changeShell fun s => { s with mask := n &&& 0o777 }
          return 0
        else fatal ("Illegal number: " ++ arg)
      else
        match modeChange? 0 arg with
        | some change =>
          let permitted := change false (0o777 ^^^ (mask &&& 0o777))
          changeShell fun s => { s with mask := 0o777 ^^^ (permitted &&& 0o777) }
          return 0
        | none => fatal ("Illegal mode: " ++ arg)

end Assay.Shell
