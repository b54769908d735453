import Assay.Utility.Awk.Run
import Assay.Utility.Batch
import Assay.Utility.Cat
import Assay.Utility.Coding
import Assay.Utility.Compare.Run
import Assay.Utility.Count
import Assay.Utility.Digest
import Assay.Utility.Dump
import Assay.Utility.Exchange
import Assay.Utility.Field
import Assay.Utility.Files
import Assay.Utility.Fold
import Assay.Utility.Formula
import Assay.Utility.Grep
import Assay.Utility.Inspect
import Assay.Utility.Launch
import Assay.Utility.Listing
import Assay.Utility.Make
import Assay.Utility.Merge
import Assay.Utility.Moment
import Assay.Utility.Numbering
import Assay.Utility.Part
import Assay.Utility.Resolve
import Assay.Utility.Sed.Run
import Assay.Utility.Seek.Run
import Assay.Utility.Sequence
import Assay.Utility.Sort
import Assay.Utility.Transfer
import Assay.Utility.Unique
import Assay.Shell.Builtin.Directory
import Assay.Shell.Builtin.Print
import Assay.Shell.Builtin.Signal
import Assay.Shell.Program

/-!
# The utilities

All utilities by their names. What a utility prints has to be taken where it goes; if it is not, the
utility fails.
-/

namespace Assay.Shell

open Host

/-- The utilities that run programs. -/
def launching : List (String × (Launcher → Utility)) :=
  [("awk", awk), ("env", env), ("find", findFiles), ("mawk", awk),
    ("nice", runsProgram "nice" "n"), ("nohup", runsProgram "nohup" ""),
    ("setsid", runsProgram "setsid" ""), ("stdbuf", runsProgram "stdbuf" "ioe"),
    ("timeout", timeout), ("xargs", xargs)]

/-- The utilities that run no programs. -/
def utilities : List (String × Utility) :=
  [("[", bracket), ("arch", always "x86_64"), ("base32", base32), ("base64", base64),
    ("basename", basename), ("cat", cat), ("chgrp", changeOwner "chgrp" "group"), ("chmod", chmod),
    ("chown", changeOwner "chown" "user"), ("cksum", cksum), ("cmp", cmp), ("comm", comm),
    ("cp", cp), ("cut", cut), ("date", date), ("dd", dd), ("diff", diff), ("dirname", dirname),
    ("echo", echo), ("egrep", grepWith [('E', "")]), ("expand", expand), ("expr", expr),
    ("false", fun _ => return 1), ("fgrep", grepWith [('F', "")]), ("fold", fold), ("grep", grep),
    ("groups", always "root"), ("head", head), ("hostname", always "localhost"), ("id", identity),
    ("install", install), ("kill", kill), ("link", linkOnce), ("ln", ln), ("ls", ls),
    ("mkdir", mkdir), ("mktemp", mktemp), ("mv", mv), ("nl", nl), ("nproc", nproc), ("od", od),
    ("paste", paste), ("printenv", printenv), ("printf", printf), ("pwd", pwd),
    ("readlink", readlink), ("realpath", realpath), ("rev", rev), ("rm", rm), ("rmdir", rmdir),
    ("sed", sed), ("seq", seq), ("sleep", sleep), ("sort", sort), ("stat", tellStatus),
    ("sync", fun _ => return 0), ("tac", tac), ("tail", tail), ("tee", tee), ("test", test),
    ("touch", touch), ("tr", tr), ("true", fun _ => return 0), ("truncate", truncate), ("tty", tty),
    ("uname", uname), ("uniq", uniq), ("unlink", unlinkOnce), ("wc", wc), ("which", which),
    ("whoami", always "root"), ("yes", yes)] ++ digestUtilities

/-- The names of all utilities, and of the shell. -/
def utilityNames : List String :=
  ["sh", "dash", "bash"] ++ launching.map Prod.fst ++ utilities.map Prod.fst

/-- The status of utilities that cannot write. -/
def writeFailure (name : String) : Nat :=
  if name = "expr" then 3
  else if ["ls", "sort", "grep", "cmp", "diff", "awk", "mawk"].contains name then 2 else 1

/-- What a utility says that cannot write. -/
def writeComplaint (name calledAs : String) (closed : Bool) (fault : Fault) : String :=
  if name = "cat" && closed then calledAs ++ ": standard output: " ++ fault.words
  else if name = "wc" && !closed then calledAs ++ ": write error"
  else if name = "awk" || name = "mawk" then
    calledAs ++ ": close failed on file \"/dev/stdout\" (" ++ fault.words ++ ")"
  else if name = "sort" then
    calledAs ++ ": fflush failed: 'standard output': " ++ fault.words ++ "\n" ++ calledAs ++
      ": write error"
  else calledAs ++ ": write error: " ++ fault.words

/-- Runs a utility: what it prints must have been taken, and what it read must have been all. -/
def performUtility (name calledAs : String) (body : Utility) : Utility := fun args => do
  let status ← body args
  refuseHunger
  match (← shell).unwritten with
  | none => return status
  | some fault =>
    complain (writeComplaint name calledAs ((← streamOf 1) = .closed) fault)
    return max status (writeFailure name)

end Assay.Shell
