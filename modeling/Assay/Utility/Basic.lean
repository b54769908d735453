import Assay.Shell.State
import Assay.Text.Blank
import Assay.Utility.Quote

/-!
# Utilities

A utility gets its arguments and gives a status; what it reads and prints goes through the streams
of its process. Most have options, which are letters or words, and operands, which are paths.
-/

namespace Assay.Shell

open Machine Host

/-- A utility: from its arguments to its status. -/
abbrev Utility := List String → Eval Nat

/-! ## Options -/

/-- Arguments: options by their letters with their values, and the others. -/
structure Options where
  letters : List (Char × String) := []
  operands : List String := []

/-- Whether an option is set. -/
def Options.has (o : Options) (c : Char) : Bool :=
  o.letters.any (·.1 = c)

/-- The value of an option, of the last one if it is set repeatedly. -/
def Options.value? (o : Options) (c : Char) : Option String :=
  (o.letters.reverse.find? (·.1 = c)).map Prod.snd

/-- The options of one argument. An option with a value takes the rest of the argument, or is left
over to take the next one. -/
def readLetters (plain valued : String) :
    List Char → Except String (List (Char × String) × Option Char)
  | [] => .ok ([], none)
  | c :: rest =>
    if plain.toList.contains c then do
      let (letters, open?) ← readLetters plain valued rest
      return ((c, "") :: letters, open?)
    else if valued.toList.contains c then
      if rest.isEmpty then .ok ([], some c) else .ok ([(c, String.ofList rest)], none)
    else .error ("invalid option -- '" ++ String.singleton c ++ "'")

/-- The option of a long name, which may be shortened as long as it is one only. -/
def longOption? (long : List (String × Char)) (name : String) : Option (String × Char) :=
  match long.find? fun l => l.1 = name with
  | some l => some l
  | none =>
    match long.filter fun l => l.1.startsWith name with
    | [l] => some l
    | l :: others => if others.all fun o => o.2 = l.2 then some l else none
    | [] => none

/-- A long option: its letter, and its value or whether it wants the next argument. A letter that is
both plain and valued may have a value, but does not want the next argument. -/
def readLong (plain valued : String) (long : List (String × Char)) (arg : String) :
    Except String (Char × Option String × Bool) :=
  let text := arg.toList.drop 2
  let name := String.ofList (text.takeWhile (· ≠ '='))
  let value := match text.drop name.length with
    | _ :: v => some (String.ofList v)
    | [] => none
  match longOption? long name, value with
  | none, _ => .error ("unrecognized option '" ++ arg ++ "'")
  | some (_, c), none => .ok (c, none, valued.toList.contains c && !plain.toList.contains c)
  | some (full, c), some v =>
    if valued.toList.contains c then .ok (c, some v, false)
    else .error ("option '--" ++ full ++ "' doesn't allow an argument")

/-- The options among arguments; an error is a message. -/
def readOptions (plain valued : String) (long : List (String × Char)) :
    List String → Except String Options
  | [] => .ok {}
  | arg :: rest =>
    if arg = "--" then .ok { operands := rest }
    else if arg.startsWith "--" then do
      match ← readLong plain valued long arg, rest with
      | (c, some v, _), rest =>
        let o ← readOptions plain valued long rest
        return { o with letters := (c, v) :: o.letters }
      | (c, none, false), rest =>
        let o ← readOptions plain valued long rest
        return { o with letters := (c, "") :: o.letters }
      | (c, none, true), value :: rest =>
        let o ← readOptions plain valued long rest
        return { o with letters := (c, value) :: o.letters }
      | (_, none, true), [] => .error ("option '" ++ arg ++ "' requires an argument")
    else if arg.startsWith "-" && arg ≠ "-" then do
      match ← readLetters plain valued arg.toList.tail, rest with
      | (letters, none), rest =>
        let o ← readOptions plain valued long rest
        return { o with letters := letters ++ o.letters }
      | (letters, some c), value :: rest =>
        let o ← readOptions plain valued long rest
        return { o with letters := letters ++ (c, value) :: o.letters }
      | (_, some c), [] => .error ("option requires an argument -- '" ++ String.singleton c ++ "'")
    else do
      let o ← readOptions plain valued long rest
      return { o with operands := arg :: o.operands }

/-- Says that a utility was not called as it should be. -/
def misused (name message : String) : Eval Unit := do
  complain (name ++ ": " ++ message)
  complain ("Try '" ++ name ++ " --help' for more information.")

/-- A utility with options; `status` is that of a wrong call. -/
def withOptions (name plain valued : String) (status : Nat) (body : Options → Eval Nat)
    (long : List (String × Char) := []) : Utility :=
  fun args => do
    match readOptions plain valued long args with
    | .ok o => body o
    | .error message =>
      misused name message
      return status

/-! ## Input -/

/-- Whether a reader got less than there would have been; that is then forgotten. -/
def takeHunger : Eval Bool := do
  let hungry := (← world).hungry
  changeWorld fun w => { w with hungry := false }
  return hungry

/-- The bytes of a device, so many at most. What a stream leads to is read from its beginning if it
is a file. -/
def readDevice (d : Device) (limit : Option Nat) : Eval (Except Fault ByteArray) := do
  match d with
  | .null => return .ok ⟨#[]⟩
  | .zero | .full | .random => .ok <$> readEndless limit
  | .terminal => return .error .noDevice
  | .stream n =>
    match ← streamOf n with
    | .closed => return .error .missing
    | .file i =>
      let w ← world
      return read w.root [] ("/" ++ "/".intercalate ((w.opened[i]?).elim [] Opened.path))
    | other => readStream other limit

/-- The bytes of an operand: of a file or a device, or for a line of the standard input. -/
def readOperand (limit : Option Nat) (path : String) : Eval (Except Fault ByteArray) := do
  if path = "-" then readFrom 0 limit
  else
    let s ← get
    match find s.world.root s.shell.directory true path with
    | .ok (_, .device d) => readDevice d limit
    | _ => return read s.world.root s.shell.directory path

/-- All bytes of an operand. A reader that would get more does not go on. -/
def readWhole (path : String) : Eval (Except Fault ByteArray) := do
  let bytes ← readOperand none path
  refuseHunger
  return bytes

/-- Does something with each operand; the status is that of a failure if one of them failed. -/
def forOperands (body : String → Eval Bool) : List String → Eval Nat
  | [] => return 0
  | path :: rest => do
    let done ← body path
    let status ← forOperands body rest
    return if done then status else 1

/-- The operands, or the standard input if there are none. -/
def orInput (operands : List String) : List String :=
  if operands.isEmpty then ["-"] else operands

/-- Reports an operand that cannot be read. -/
def unreadable (utility path : String) (fault : Fault) : Eval Unit :=
  complain (utility ++ ": " ++ shownName path ++ ": " ++ fault.words)

/-- The bytes of all operands one behind the other, and whether all of them could be read; the
others are reported. -/
def readAll (utility : String) (read : String → Eval (Except Fault ByteArray)) :
    List String → Eval (ByteArray × Bool)
  | [] => return (⟨#[]⟩, true)
  | path :: rest => do
    match ← read path with
    | .ok bytes =>
      let (more, done) ← readAll utility read rest
      return (bytes ++ more, done)
    | .error fault =>
      unreadable utility path fault
      let (more, _) ← readAll utility read rest
      return (more, false)

/-! ## Lines -/

/-- The lines of bytes, each with its line break if it has one. -/
def byteLines (bytes : List UInt8) : List (List UInt8) :=
  bytes.foldr
    (fun b lines =>
      if b = 10 then [b] :: lines
      else match lines with
        | line :: rest => if line = [] then [b] :: rest else (b :: line) :: rest
        | [] => [[b]])
    []

/-- Octets cut at line ends; `finish` is the octet that ends a line. -/
def linesEndedBy (finish : UInt8) (bytes : List UInt8) : List (List UInt8) :=
  bytes.foldr
    (fun b lines =>
      if b = finish then [] :: lines
      else match lines with
        | l :: rest => (b :: l) :: rest
        | [] => [[b]])
    []

/-- The lines of bytes without their line breaks. -/
def bareLines (bytes : List UInt8) : List (List UInt8) :=
  linesEndedBy 10 bytes

/-- Prints bytes. -/
def printBytes (bytes : List UInt8) : Eval Unit :=
  write 1 ⟨bytes.toArray⟩

/-- Prints lines of bytes, each with a line break. -/
def printByteLines (lines : List (List UInt8)) : Eval Unit :=
  printBytes (lines.flatMap (· ++ [10]))

/-- A text made wide enough by blanks in front. -/
def padLeft (width : Nat) (s : String) : String :=
  String.ofList (List.replicate (width - s.length) ' ') ++ s

/-- A text made wide enough by blanks behind it. -/
def padRight (width : Nat) (s : String) : String :=
  s ++ String.ofList (List.replicate (width - s.length) ' ')

/-- Whether a byte stands between words. -/
def isGap (b : UInt8) : Bool :=
  b = 32 || (9 ≤ b && b ≤ 13)

/-- Arguments without the mark that ends options. -/
def withoutMark (args : List String) : List String :=
  match args with
  | "--" :: rest => rest
  | args => args

end Assay.Shell
