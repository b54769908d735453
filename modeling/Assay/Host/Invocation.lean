import Assay.Case.Basic
import Assay.Host.Fault
import Assay.Path
import Assay.Text.Blank

/-!
# Invocations and what comes of them

An invocation is a command and its arguments, all of them fragments of a command line: they are
joined by blanks and handed to the shell as they are. What comes of it is an exit code, unless the
process was ended by a signal, and one output: what it wrote to its standard output, trimmed, or if
that is blank what it wrote to its standard error.

Paths are quoted for the shell. The commands that list a directory and look up a program depend on
the platform.
-/

namespace Assay

/-- A command and its arguments. -/
structure Invocation where
  command : String
  arguments : List String := []
deriving DecidableEq

/-- The command line that the shell gets. -/
def Invocation.line (i : Invocation) : String :=
  Text.join " " (i.command :: i.arguments)

/-- What came of an invocation. -/
structure Outcome where
  exitCode : Option Int
  output : String
deriving DecidableEq

namespace Outcome

/-- What came of an invocation with these streams. -/
def ofStreams (exitCode : Option Int) (stdout stderr : String) : Outcome :=
  let out := Text.strip stdout
  { exitCode, output := if out.isEmpty then Text.strip stderr else out }

/-- Whether the exit code is zero. -/
def success (o : Outcome) : Bool :=
  o.exitCode = some 0

end Outcome

/-- Why an invocation came to nothing. -/
inductive ProcessFault where
  /-- The shell could not be started. -/
  | spawn (line : String) (reason : Host.Fault)
  /-- The process took longer than so many milliseconds. -/
  | timeout (line : String) (limit : Nat)
deriving DecidableEq

/-- A fault in words. -/
def ProcessFault.message : ProcessFault → String
  | .spawn line reason => "failed to spawn `" ++ line ++ "`: " ++ reason.message
  | .timeout line limit =>
    "`" ++ line ++ "` timed out after " ++ toString (limit / 1000) ++ "s"

namespace Shell

/-- A text between single quotes, with each single quote in it written outside of them behind a
backslash. -/
def quoteChars : List Char → List Char
  | [] => []
  | c :: s => if c = '\'' then '\'' :: '\\' :: '\'' :: '\'' :: quoteChars s else c :: quoteChars s

/-- A path as one word of a POSIX command line. -/
def quote (p : Path) : String :=
  String.ofList ('\'' :: quoteChars p.text.toList ++ ['\''])

/-- A path between double quotes, as a Windows command line has it. -/
def doubleQuote (p : Path) : String :=
  "\"" ++ p.text ++ "\""

end Shell

namespace Platform

/-- A listing of a path, which succeeds only if the path can be listed. -/
def listing (p : Platform) (path : Path) : Invocation :=
  match p with
  | .posix => ⟨"ls", [Shell.quote path]⟩
  | .windows => ⟨"dir", [Shell.doubleQuote path]⟩

/-- A lookup of a program on the search path. -/
def locate (p : Platform) (program : String) : Invocation :=
  match p with
  | .posix => ⟨"which", [program]⟩
  | .windows => ⟨"where", [program]⟩

/-- The program and the arguments that run a command line. -/
def shell (p : Platform) (line : String) : List String :=
  match p with
  | .posix => ["sh", "-c", line]
  | .windows => ["cmd", "/d", "/s", "/c", line]

/-- The invocations that set permissions through access lists, one after the other. Entries that
deny win over those that grant, so they are removed first. -/
def accessControl (path : Path) : Permission → List Invocation
  | .readOnly =>
    [⟨"icacls", [Shell.doubleQuote path, "/deny", "\"Everyone:(OI)(CI)(W)\"", "/grant:r",
      "\"Everyone:(OI)(CI)(R)\""]⟩]
  | .allAccess =>
    [⟨"icacls", [Shell.doubleQuote path, "/remove:d", "Everyone"]⟩,
      ⟨"icacls", [Shell.doubleQuote path, "/grant", "\"Everyone:(OI)(CI)(F)\""]⟩]

end Platform

/-- The program that a listing of matches names first: the first line that is not blank. -/
def firstLine? (output : String) : Option String :=
  ((Text.lines output.toList).map Text.trim).find? (!·.isEmpty) |>.map String.ofList

end Assay
