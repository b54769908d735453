import Assay.Shell.Process

/-!
# Commands in the background

A command in the background is run at once when it has to be known what it did: when it is waited
for, when its time has come, and when somebody reads what it prints. Until then it is only found out
when it will end.
-/

namespace Assay.Shell

/-- Whether a job has not been run. -/
def Job.isOpen (j : Job) : Bool :=
  j.outcome.isNone

/-- The shell that a command in the background runs with. -/
def Session.behind (s : Session) (process : Nat) : Session :=
  let c := s.child process
  { c with
    traps := (2, .ignore) :: (3, .ignore) :: c.traps.filter fun t => t.1 ≠ 2 && t.1 ≠ 3
    streams := putStream 0 .null c.streams }

/-- Puts a script into the background. -/
def startJob (script : Script) : Eval Unit := do
  pass startTime
  let n ← newProcess
  let s ← shell
  changeWorld fun w =>
    { w with jobs := w.jobs ++ [{
        process := n, owner := s.self, shell := s.behind n, script, begins := w.clock }] }
  changeShell fun s => { s with background := some n }

/-- Runs a job by what runs its script to its end. -/
def performJob (body : Script → Eval Finish) (j : Job) : Eval Unit := do
  let saved ← shell
  let now := (← world).clock
  changeJob j.process ({ · with known := true, ends := none })
  changeShell fun _ => j.shell
  changeWorld fun w => { w with clock := j.begins, hungry := false }
  let result ← attempt (body j.script)
  let ended := (← world).clock
  changeShell fun _ => saved
  changeWorld fun w => { w with clock := now, hungry := false }
  if let .ok f := result then
    changeJob j.process
      ({ · with outcome := some (f.status, f.signal), ends := some ended })

/-- Finds out when a job ends. -/
def foresee (body : Script → Eval Finish) (j : Job) : Eval Unit := do
  let (_, after) ← onTrial (performJob body j)
  let ends := (after.world.job? j.process).bind Job.ends
  changeJob j.process ({ · with known := true, ends })

/-- The job that ends first, of those that have not been run. -/
def earliest (jobs : List Job) : Option Job :=
  (jobs.filter fun j => j.isOpen && j.ends.isSome).foldl
    (fun best j =>
      match best with
      | none => some j
      | some b => if j.ends.getD 0 < b.ends.getD 0 then some j else some b)
    none

/-- Runs the jobs that end up to some time and that have a property, so many at most. -/
def runJobs (body : Script → Eval Finish) (wanted : Job → Bool) (moment : Option Nat) :
    (fuel : Nat) → Eval Unit
  | 0 => return ()
  | fuel + 1 => do
    for j in (← world).jobs do
      if j.isOpen && !j.known then foresee body j
    let jobs := (← world).jobs.filter wanted
    match earliest jobs with
    | none => return ()
    | some j =>
      if moment.all (j.ends.getD 0 ≤ ·) then
        performJob body j
        if (← shell).self = j.owner then noticeChild
        runJobs body wanted moment fuel

/-- Lets the time pass up to a moment. -/
def passUntil (moment : Nat) : Eval Unit := do
  pass (moment - (← world).clock)

/-- How many jobs are run in a row. -/
def maxJobs : Nat := 10000

/-- Runs the jobs whose time has come. -/
def runDueJobs (body : Script → Eval Finish) : Eval Unit := do
  let w ← world
  if w.jobs.any Job.isOpen then runJobs body (fun _ => true) (some w.clock) maxJobs

/-- Runs jobs to their ends and waits for them. A job without an end is waited for without end. -/
def awaitJobs (body : Script → Eval Finish) (wanted : Job → Bool) : Eval Unit := do
  runJobs body wanted none maxJobs
  let jobs := (← world).jobs.filter wanted
  if jobs.any Job.isOpen then throw .timeOver
  passUntil ((jobs.filterMap Job.ends).foldl max 0)

/-- Runs the jobs that write to a channel. -/
def awaitWriters (body : Script → Eval Finish) (channel : Nat) : Eval Unit := do
  let writes (j : Job) : Bool := j.isOpen && j.shell.streams.any (·.2 = .channel channel)
  if (← world).jobs.any writes then
    let processes := ((← world).jobs.filter writes).map Job.process
    awaitJobs body fun j => processes.contains j.process

/-- Whether the shell has to react to a signal. -/
def hasSignal : Eval Bool := do
  let s ← shell
  return (← world).signals.any fun e => e.1 = s.self && e.2 ≠ 0 && (s.traps.lookup e.2).isSome

/-- Waits for a job of the shell, and runs those that end before. -/
def awaitJob (body : Script → Eval Finish) (process : Nat) : (fuel : Nat) → Eval Unit
  | 0 => return ()
  | fuel + 1 => do
    runDueJobs body
    match (← world).job? process with
    | none => return ()
    | some j =>
      if !j.isOpen || (← hasSignal) then return ()
      else
        match earliest (← world).jobs with
        | some next =>
          passUntil (next.ends.getD 0)
          awaitJob body process fuel
        | none => throw .timeOver

/-- The status of a command that a signal interrupted. -/
def interruptedStatus : Eval Nat := do
  let s ← shell
  return 128 + ((← world).signals.lookup s.self).getD 0

/-- Waits for all jobs of the shell. -/
def waitForAll (body : Script → Eval Finish) : (fuel : Nat) → Eval Nat
  | 0 => return 0
  | fuel + 1 => do
    runDueJobs body
    let s ← shell
    if ← hasSignal then interruptedStatus
    else if (← world).jobs.all fun j => j.owner ≠ s.self || !j.isOpen then return 0
    else
      match earliest (← world).jobs with
      | some next =>
        passUntil (next.ends.getD 0)
        waitForAll body fuel
      | none => throw .timeOver

/-- Waits for jobs that are named. -/
def waitFor (body : Script → Eval Finish) (named : World → String → Eval (Option Job)) :
    List String → (status : Nat) → Eval Nat
  | [], status => return status
  | arg :: rest, _ => do
    match ← named (← world) arg with
    | none => waitFor body named rest 127
    | some j =>
      awaitJob body j.process maxJobs
      match ((← world).job? j.process).bind Job.outcome with
      | some (status, signal) =>
        let status ← announce ⟨status, signal⟩
        waitFor body named rest status
      | none => interruptedStatus

end Assay.Shell
