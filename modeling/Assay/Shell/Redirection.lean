import Assay.Shell.Expansion
import Assay.Utility.Change

/-!
# Redirections

A redirection makes a stream lead to a file, to a device, to where another stream leads, or to a
text of the script. The targets of all redirections of a command are found before the first of them
is carried out; one that fails is reported and the command does not run.
-/

namespace Assay.Shell

open Machine Host

/-- The words for a file that cannot be opened. -/
def openingWords (missing : String) (f : Fault) : String :=
  match f with
  | .missing | .notDirectory => missing
  | f => f.words

/-- The stream that a device gives, with files opened anew by what opens them. -/
def deviceStream (anew : List String → Eval (Except Fault Stream)) :
    Device → Eval (Except Fault Stream)
  | .null => return .ok .null
  | .zero | .random => return .ok (.endless true)
  | .full => return .ok (.endless false)
  | .terminal => return .error .noDevice
  | .stream n => do
    match ← streamOf n with
    | .closed => return .error .missing
    | .file i =>
      match (← world).opened[i]? with
      | some o => anew o.path
      | none => return .error .missing
    | other => return .ok other

/-- The stream that reads from a path. -/
def openInput (path : String) : Eval (Except Fault Stream) := do
  match ← partOf true path with
  | .error fault => return .error fault
  | .ok (_, .device d) => deviceStream (fun p => .ok <$> openStream p false) d
  | .ok (p, part) =>
    if mayRead part.mode then return .ok (← openStream p false) else return .error .denied

/-- The stream that writes to a path. -/
def openOutput (truncate atEnd : Bool) (path : String) : Eval (Except Fault Stream) := do
  match ← openForWriting truncate path with
  | .error fault => return .error fault
  | .ok (.device d) =>
    deviceStream (fun p => do
      match ← openForWriting truncate ("/" ++ "/".intercalate p) with
      | .ok _ => .ok <$> openStream p atEnd
      | .error fault => return .error fault) d
  | .ok (.file p) => return .ok (← openStream p atEnd)

/-- Whether a path leads to a file that is there. -/
def isFileThere (path : String) : Eval Bool := do
  match ← partOf true path with
  | .ok (_, .file ..) => return true
  | _ => return false

/-- A stream that reads a text. -/
def textStream (s : String) : Eval Stream := do
  let n ← newChannel none
  changeWorld fun w => { w with channels := w.channels.modify n ({ · with bytes := s.toUTF8 }) }
  return .channel n

/-- Makes a stream lead to what was opened, or else reports why it was not. -/
def useOpened (stream : Nat) (what path missing : String) (opened : Except Fault Stream) :
    Eval Unit := do
  match opened with
  | .ok s => setStream stream s
  | .error fault =>
    fatal ("cannot " ++ what ++ " " ++ path ++ ": " ++ openingWords missing fault)

/-- Carries out a redirection to a target. -/
def redirect (printed : Script → Eval String) (stream : Nat) (direction : Direction)
    (target : String) : Eval Unit := do
  let create (truncate atEnd : Bool) : Eval Unit := do
    useOpened stream "create" target "Directory nonexistent" (← openOutput truncate atEnd target)
  match direction with
  | .document number =>
    let text ← match (← shell).documents[number]? with
      | some d => expandDocument printed d
      | none => pure ""
    setStream stream (← textStream text)
  | .copy =>
    match naturalNumber? target with
    | none => setStream stream .closed
    | some n =>
      match ← streamOf n with
      | .closed =>
        -- A stream that is to be replaced is closed before the fault is found.
        if n ≠ stream then setStream stream .closed
        fatal (target ++ ": Bad file descriptor")
      | other => setStream stream other
  | .input =>
    useOpened stream "open" target "No such file" (← openInput target)
  | .output =>
    if (← shell).settings.contains .noclobber && (← isFileThere target) then
      fatal ("cannot create " ++ target ++ ": " ++ Fault.alreadyThere.words)
    else create true false
  | .overwrite => create true false
  | .append => create false true
  | .both => create false false

/-- The target of a redirection. -/
def redirectionTarget (printed : Script → Eval String) : Redirection → Eval String
  | .mk _ (.document _) _ => return ""
  | .mk _ .copy word => do
    let target ← expandText printed word
    match target.toList with
    | [c] => if c = '-' || c.isDigit then return target else fatal "Syntax error: Bad fd number"
    | _ => fatal "Syntax error: Bad fd number"
  | .mk _ _ word => expandText printed word

/-- Carries out redirections to targets. -/
def redirectEach (printed : Script → Eval String) : List (Redirection × String) → Eval Unit
  | [] => return ()
  | (.mk stream direction _, target) :: rest => do
    redirect printed stream direction target
    redirectEach printed rest

/-- The targets of redirections. -/
def redirectionTargets (printed : Script → Eval String) :
    List Redirection → Eval (List (Redirection × String))
  | [] => return []
  | r :: rest => do
    let target ← redirectionTarget printed r
    return (r, target) :: (← redirectionTargets printed rest)

/-- Carries out redirections; whether that was possible. -/
def redirectAll (printed : Script → Eval String) (rs : List Redirection) : Eval Bool := do
  let targets ← redirectionTargets printed rs
  match ← attempt (redirectEach printed targets) with
  | .ok _ => return true
  | .error .fault => return false
  | .error stop => throw stop

/-- Makes the streams of redirections what they were before. -/
def restoreStreams (before : List (Nat × Stream)) (rs : List Redirection) : Eval Unit := do
  for .mk stream _ _ in rs do setStream stream ((before.lookup stream).getD .closed)

end Assay.Shell
