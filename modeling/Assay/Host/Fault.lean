/-!
# What a host refuses

The reasons for which a host does not do what it is asked, with the words and the numbers by which
POSIX systems know them.
-/

namespace Assay.Host

/-- Why a request to the host fails. -/
inductive Fault where
  | missing
  | argumentsTooLong
  | badFormat
  /-- A stream that leads nowhere. -/
  | badStream
  | denied
  | alreadyThere
  | notDirectory
  | isDirectory
  | invalid
  | noDevice
  | noSpace
  | notPermitted
  | nameTooLong
  | notEmpty
  | linkLoop
  /-- The contents of a file are not text. -/
  | notText
  /-- A path holds the character zero. -/
  | zeroInPath
  /-- A command line holds the character zero. -/
  | zeroInLine
deriving DecidableEq

namespace Fault

/-- The system's words for a fault. -/
def words : Fault → String
  | .missing => "No such file or directory"
  | .argumentsTooLong => "Argument list too long"
  | .badFormat => "Exec format error"
  | .badStream => "Bad file descriptor"
  | .denied => "Permission denied"
  | .alreadyThere => "File exists"
  | .notDirectory => "Not a directory"
  | .isDirectory => "Is a directory"
  | .invalid => "Invalid argument"
  | .noDevice => "No such device or address"
  | .noSpace => "No space left on device"
  | .notPermitted => "Operation not permitted"
  | .nameTooLong => "File name too long"
  | .notEmpty => "Directory not empty"
  | .linkLoop => "Too many levels of symbolic links"
  | .notText => "stream did not contain valid UTF-8"
  | .zeroInPath => "file name contained an unexpected NUL byte"
  | .zeroInLine => "nul byte found in provided data"

/-- The system's number for a fault; some faults are found before the system is asked. -/
def number? : Fault → Option Nat
  | .notPermitted => some 1
  | .missing => some 2
  | .noDevice => some 6
  | .argumentsTooLong => some 7
  | .badFormat => some 8
  | .badStream => some 9
  | .denied => some 13
  | .alreadyThere => some 17
  | .notDirectory => some 20
  | .isDirectory => some 21
  | .invalid => some 22
  | .noSpace => some 28
  | .nameTooLong => some 36
  | .notEmpty => some 39
  | .linkLoop => some 40
  | .notText | .zeroInPath | .zeroInLine => none

/-- A fault in words, with its number. -/
def message (f : Fault) : String :=
  match f.number? with
  | some n => f.words ++ " (os error " ++ toString n ++ ")"
  | none => f.words

end Fault

end Assay.Host
