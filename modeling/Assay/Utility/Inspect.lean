import Assay.Utility.Dump
import Assay.Utility.Listing

/-!
# Telling about files

`stat` prints what is known about files, as a format says.
-/

namespace Assay.Shell

open Machine Host

/-- The words for the type of a file. -/
def typeWords : Tree → String
  | .file _ c => if c.size = 0 then "regular empty file" else "regular file"
  | .dir .. => "directory"
  | .link _ => "symbolic link"
  | .device (.stream _) => "fifo"
  | .device _ => "character special file"

/-- The bits of the type and the mode of a file. -/
def typeBits (t : Tree) : Nat :=
  t.mode + match t with
    | .file .. => 0o100000
    | .dir .. => 0o40000
    | .link _ => 0o120000
    | .device (.stream _) => 0o10000
    | .device _ => 0o20000

/-- The seconds at which every file was changed last. -/
def fileSeconds : Nat := 1704067200

/-- What a letter of a format stands for. -/
def fileDetail (path : String) (t : Tree) (letter : Char) : String :=
  match letter with
  | 'n' => path
  | 'N' => quotedName path ++ match t with
    | .link text => " -> " ++ quotedName text
    | _ => ""
  | 's' => toString (partSize t)
  | 'a' => String.ofList (Nat.toDigits 8 t.mode)
  | 'A' => String.singleton (typeLetter t) ++ modeLetters t.mode
  | 'f' => inDigits 16 1 (typeBits t)
  | 'F' => typeWords t
  | 'h' => toString (linkCount t)
  | 'U' | 'G' => "root"
  | 'u' | 'g' | 't' | 'T' | 'W' => "0"
  | 'b' => toString (2 * blockCount t)
  | 'B' => "512"
  | 'o' => "4096"
  | 'i' | 'd' => "1"
  | 'D' => "1"
  | 'X' | 'Y' | 'Z' => toString fileSeconds
  | 'x' | 'y' | 'z' => "2024-01-01 00:00:00.000000000 +0000"
  | 'w' => "-"
  | 'm' => "/"
  | _ => "?"

/-- What a format prints for a file, and with escapes if it has them; of at most so many
characters. -/
def formattedDetails (escapes : Bool) (path : String) (t : Tree) :
    (fuel : Nat) → List Char → List UInt8
  | 0, _ | _, [] => []
  | fuel + 1, '\\' :: c :: rest =>
    if !escapes then 92 :: formattedDetails escapes path t fuel (c :: rest)
    else if isOctal c then
      let (b, rest) := octalByte 3 (c :: rest)
      b :: formattedDetails escapes path t fuel rest
    else
      (match letterEscape? c with
        | some b => [b]
        | none => charBytes c) ++ formattedDetails escapes path t fuel rest
  | fuel + 1, '%' :: rest =>
    let flags := rest.takeWhile fun c => "-+ #0'".toList.contains c
    let digits := (rest.drop flags.length).takeWhile Char.isDigit
    match rest.drop (flags.length + digits.length) with
    | [] => [37]
    | '%' :: behind => 37 :: formattedDetails escapes path t fuel behind
    | letter :: behind =>
      let text := fileDetail path t letter
      let width := decimalValue digits
      let text := if flags.contains '-' then padRight width text
        else if flags.contains '0' then
          String.ofList (List.replicate (width - text.length) '0') ++ text
        else padLeft width text
      textBytes text ++ formattedDetails escapes path t fuel behind
  | fuel + 1, c :: rest => charBytes c ++ formattedDetails escapes path t fuel rest

/-- The format of what is told without one. -/
def defaultDetails : String :=
  "  File: %n\n  Size: %-10s\tBlocks: %-10b IO Block: %-6o %F\n" ++
  "Device: 0,1\tInode: %-11i Links: %h\nAccess: (%04a/%10A)  Uid: (%5u/%8U)   Gid: (%5g/%8G)\n" ++
  "Access: %x\nModify: %y\nChange: %z\n Birth: %w\n"

/-- `stat` tells about files. -/
def tellStatus : Utility :=
  withOptions "stat" "Lft" "cP" 1
    (fun o => do
      if o.operands.isEmpty then
        misused "stat" "missing operand"
        return 1
      forOperands (fun path => do
        match ← partOf (o.has 'L') path with
        | .error fault => cannot "stat" "cannot statx" path fault
        | .ok (_, t) =>
          let told (escapes : Bool) (format : String) : List UInt8 :=
            formattedDetails escapes path t format.length format.toList
          match o.value? 'P', o.value? 'c' with
          | some format, _ => printBytes (told true format)
          | none, some format => printBytes (told false format ++ [10])
          | none, none => printBytes (told true defaultDetails)
          return true) o.operands)
    [("dereference", 'L'), ("file-system", 'f'), ("format", 'c'), ("printf", 'P'), ("terse", 't')]

end Assay.Shell
