import Assay.Utility.Change

/-!
# Modes

The bits that say who may do what with a file, written in digits or in letters: whose bits are
changed, a sign, and which bits. `chmod` changes them.
-/

namespace Assay.Shell

open Machine Host

/-- The number that octal digits write. -/
def octalMode? (s : String) : Option Nat :=
  let cs := s.toList
  if cs.isEmpty || !cs.all isOctal then none
  else
    let n := cs.foldl (fun n c => 8 * n + (c.toNat - '0'.toNat)) 0
    if n ≤ 0o7777 then some n else none

/-- The bits of those that letters name; none without letters. -/
def ownerBits (s : List Char) : Nat :=
  s.foldl (fun n c => n ||| match c with
    | 'u' => 0o4700
    | 'g' => 0o2070
    | 'o' => 0o1007
    | _ => 0o7777) 0

/-- The bits that a letter stands for, of everyone, where a file has a mode. -/
def letterBits (isDir : Bool) (mode : Nat) (c : Char) : Nat :=
  match c with
  | 'r' => 0o444
  | 'w' => 0o222
  | 'x' => 0o111
  | 'X' => if isDir || mode &&& 0o111 ≠ 0 then 0o111 else 0
  | 's' => 0o6000
  | 't' => 0o1000
  | 'u' => 0o111 * (mode / 0o100 % 8)
  | 'g' => 0o111 * (mode / 0o10 % 8)
  | 'o' => 0o111 * (mode % 8)
  | _ => 0

/-- A change of a mode: a sign, the letters behind it, and whose bits are changed. -/
structure ModeChange where
  owners : List Char
  sign : Char
  letters : List Char

/-- The mode that a file gets by a change. Without owners the bits that are masked stay. -/
def ModeChange.apply (mask : Nat) (isDir : Bool) (c : ModeChange) (mode : Nat) : Nat :=
  let reach := if c.owners.isEmpty then 0o7777 ^^^ mask else ownerBits c.owners
  let bits := (c.letters.foldl (fun n l => n ||| letterBits isDir mode l) 0) &&& reach
  match c.sign with
  | '+' => mode ||| bits
  | '-' => mode &&& (0o7777 ^^^ bits)
  | _ =>
    let kept := if isDir then 0o6000 else 0
    let cleared := (if c.owners.isEmpty then 0o7777 else reach) &&& (0o7777 ^^^ kept)
    (mode &&& (0o7777 ^^^ cleared)) ||| bits

/-- The changes behind the letters of owners; of at most so many signs. -/
def signedChanges (owners : List Char) : (fuel : Nat) → List Char → Option (List ModeChange)
  | 0, _ => none
  | fuel + 1, sign :: rest =>
    if !"+-=".toList.contains sign then none
    else
      let letters := rest.takeWhile (!"+-=".toList.contains ·)
      let copies := letters.length = 1 && letters.all "ugo".toList.contains
      if !(copies || letters.all "rwxXst".toList.contains) then none
      else
        let change : ModeChange := ⟨owners, sign, letters⟩
        match rest.drop letters.length with
        | [] => some [change]
        | more => (signedChanges owners fuel more).map (change :: ·)
  | _ + 1, [] => none

/-- The changes that letters with signs between them write. -/
def letterChanges? (s : List Char) : Option (List ModeChange) :=
  let owners := s.takeWhile ("ugoa".toList.contains ·)
  signedChanges owners (s.length + 1) (s.drop owners.length)

/-- The change of a mode that a text writes, in digits or in letters. -/
def modeChange? (mask : Nat) (s : String) : Option (Bool → Nat → Nat) :=
  match octalMode? s with
  | some n => some fun _ _ => n
  | none =>
    ((Text.splitAt ',' s.toList).mapM letterChanges?).map fun changes isDir mode =>
      changes.flatten.foldl (fun m c => c.apply mask isDir m) mode

/-- The letters of the bits of owner, group or others. -/
def accessLetters (n : Nat) (special : Bool) (letter : Char) : List Char :=
  let runs := n % 2 = 1
  let last := if special then if runs then letter else letter.toUpper else if runs then 'x' else '-'
  [if n ≥ 4 then 'r' else '-', if n / 2 % 2 = 1 then 'w' else '-', last]

/-- A mode in letters. -/
def modeLetters (mode : Nat) : String :=
  String.ofList <|
    accessLetters (mode / 0o100 % 8) (mode.testBit 11) 's' ++
      accessLetters (mode / 0o10 % 8) (mode.testBit 10) 's' ++
      accessLetters (mode % 8) (mode.testBit 9) 't'

/-- The part of a tree with its mode changed. -/
def withMode (change : Bool → Nat → Nat) : Tree → Tree
  | .file m c => .file (change false m) c
  | .dir m es => .dir (change true m) es
  | t => t

mutual

/-- A part of a tree with all modes in it changed, those of what is in a directory last. -/
def withModes (change : Bool → Nat → Nat) : Tree → Tree
  | .file m c => .file (change false m) c
  | .dir m es => .dir (change true m) (withEntryModes change es)
  | t => t

/-- Entries with all modes in them changed. -/
def withEntryModes (change : Bool → Nat → Nat) : List (String × Tree) → List (String × Tree)
  | [] => []
  | (name, t) :: rest => (name, withModes change t) :: withEntryModes change rest

end

/-- Whether an argument that begins with a line is a mode and no option. -/
def isModeArgument (arg : String) : Bool :=
  match arg.toList with
  | '-' :: rest =>
    !rest.isEmpty && rest.all ("rwxXstugoa,+=-01234567".toList.contains ·) && arg ≠ "--"
  | _ => false

/-- Changes the mode of an operand. -/
def changeMode (recursive : Bool) (change : Bool → Nat → Nat) (path : String) : Eval Bool :=
  reportChange "chmod" "cannot access" path (changeTree fun root here => do
    let (p, t) ← find root here true path
    return root.replace p (if recursive then withModes change t else withMode change t))

/-- `chmod` changes modes, with `-R` also those of what is in directories. -/
def chmod : Utility := fun args => do
  let modeFirst := args.takeWhile fun a => a.startsWith "-" && !isModeArgument a && a ≠ "--"
  let behind := args.drop modeFirst.length
  let (options, operands) := match behind with
    | "--" :: rest => (modeFirst, rest)
    | rest => (modeFirst, rest)
  match readOptions "Rcfv" "" [("recursive", 'R'), ("verbose", 'v'), ("silent", 'f')] options with
  | .error message =>
    misused "chmod" message
    return 1
  | .ok o =>
    match operands with
    | [] =>
      misused "chmod" "missing operand"
      return 1
    | [mode] =>
      misused "chmod" ("missing operand after " ++ quotedName mode)
      return 1
    | mode :: paths =>
      match modeChange? (← shell).mask mode with
      | none =>
        misused "chmod" ("invalid mode: " ++ quotedName mode)
        return 1
      | some change =>
        let recursive := o.has 'R' || paths.contains "-R"
        forOperands (changeMode recursive change) (paths.filter (· ≠ "-R"))

end Assay.Shell
