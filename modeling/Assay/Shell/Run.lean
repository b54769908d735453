import Assay.Shell.Builtin.Directory
import Assay.Shell.Builtin.Name
import Assay.Shell.Builtin.Print
import Assay.Shell.Builtin.Read
import Assay.Shell.Builtin.Signal
import Assay.Shell.Job
import Assay.Shell.Program
import Assay.Shell.Redirection
import Assay.Utility.Table

/-!
# Running scripts

A script is run command by command, each leaving its status. A command is a function, a command of
the shell itself or a program. Programs and scripts in shells of their own change a copy of the
shell but the same world; of pipelines each part is run to its end before the next one begins, but
all begin at the same time.

Fuel bounds how deeply commands nest and how often loops go round. A script that uses it up counts
as one that takes too long.
-/

namespace Assay.Shell

open Machine Host

/-- The nanoseconds that a command of the shell itself takes. -/
def commandTime : Nat := 10000

/-- How a script is run. -/
structure Manner where
  /-- Whether its outcome is asked for, so that a failure does not end a strict shell. -/
  asked : Bool := false
  /-- Whether nothing is left to be done behind it, so that a program may take the place of the
  shell. -/
  last : Bool := false

/-- The manner of a part that is not at the end. -/
def Manner.inside (m : Manner) : Manner :=
  { m with last := false }

/-- The manner of a condition. -/
def Manner.condition : Manner :=
  { asked := true }

/-- Ends a strict shell after a command that failed, unless its outcome was asked for. -/
def checkStatus (m : Manner) : Eval Unit := do
  let s ← shell
  if s.settings.contains .errexit && !m.asked && s.status ≠ 0 then throw (.exit s.status)

/-! ## Assignments -/

/-- An assignment as it was made, and the variable as it was before. -/
structure Assigned where
  name : String
  value : String
  before : Option Variable

/-- Makes assignments. -/
def assignAll (printed : Script → Eval String) (exported : Bool) :
    List (String × Word) → Eval (List Assigned)
  | [] => return []
  | (name, word) :: rest => do
    let value ← expandValue printed word
    let before := (← shell).bindings.lookup name
    setVariable name value
    if exported then
      changeShell fun s =>
        { s with bindings := s.bindings.map fun (n, v) =>
            if n = name then (n, { v with exported := true }) else (n, v) }
    return ⟨name, value, before⟩ :: (← assignAll printed exported rest)

/-- Makes variables what they were before. -/
def restoreAll : List (String × Option Variable) → Eval Unit
  | [] => return ()
  | (name, before) :: rest => do
    restoreAll rest
    restoreVariable name before

/-- Shows a command before it runs, where faults were reported before its redirections. -/
def trace (printed : Script → Eval String) (faults : Stream) (assigned : List Assigned)
    (fields : List String) : Eval Unit := do
  let settings := (← shell).settings
  if settings.contains .xtrace then
    changeShell fun s => { s with settings := s.settings.set .xtrace false }
    let front ← expandDocument printed ⟨((← valueOf "PS4").getD "").toList, false⟩
    changeShell fun s => { s with settings }
    let words := (assigned.map fun a => a.name ++ "=" ++ a.value) ++ fields
    let _ ← writeTo faults (front ++ " ".intercalate words ++ "\n").toUTF8

/-! ## Names of commands -/

/-- The commands whose arguments may assign, so that those are not split. -/
def declaring : List String :=
  ["export", "readonly", "local", "alias"]

/-- What the command `command` is called with: whether it is to run a command, in what way, and the
rest of the arguments. -/
structure Prefixed where
  runs : Bool
  /-- Whether programs are looked for where the standard utilities are. -/
  standard : Bool := false
  rest : List String

/-- Reads the options of the command `command` as far as they only say how a command is run. -/
def prefixed (standard : Bool) : List String → Prefixed
  | [] => ⟨false, standard, []⟩
  | arg :: rest =>
    if arg = "--" then ⟨!rest.isEmpty, standard, rest⟩
    else
      match arg.toList with
      | '-' :: l :: ls =>
        if (l :: ls).all (· = 'p') then prefixed true rest else ⟨false, standard, arg :: rest⟩
      | _ => ⟨true, standard, arg :: rest⟩

/-- A command behind all prefixes: how it was called, its name and its arguments. -/
structure Resolved where
  /-- Whether functions are passed over, and faults do not end the shell. -/
  plain : Bool := false
  standard : Bool := false
  name : String
  args : List String

/-- The command that fields name; `fuel` bounds the number of prefixes. -/
def resolveCommand (s : Session) : (fuel : Nat) → Resolved → Resolved
  | 0, r => r
  | fuel + 1, r =>
    if r.name = "command" && (r.plain || (s.functions.lookup "command").isNone) then
      let p := prefixed r.standard r.args
      match p.rest with
      | name :: args =>
        if p.runs then
          resolveCommand s fuel { plain := true, standard := p.standard, name, args }
        else r
      | [] => r
    else r

/-- The command of fields. -/
def Resolved.ofFields (s : Session) (name : String) (args : List String) : Resolved :=
  resolveCommand s (args.length + 1) { name, args }

/-- Whether a command that begins with fields takes assignments as arguments. -/
def takesAssignments (s : Session) (fields : List String) : Bool :=
  match fields with
  | [] => false
  | name :: args =>
    let r := Resolved.ofFields s name args
    declaring.contains r.name && (r.plain || (s.functions.lookup r.name).isNone)

/-- The fields of the words of a command. -/
def expandCommand (printed : Script → Eval String) :
    List Word → (fields : List String) → Eval (List String)
  | [], fields => return fields
  | w :: rest, fields => do
    let assignment := if takesAssignments (← shell) fields then assignment? w else none
    let more ← match assignment with
      | some (name, value) => do pure [name ++ "=" ++ (← expandValue printed value)]
      | none => expandWord printed w
    expandCommand printed rest (fields ++ more)

/-- The commands of the shell that need no scripts to be run. -/
def builtins : List (String × Utility) :=
  [(":", fun _ => return 0), ("true", fun _ => return 0), ("false", fun _ => return 1),
    ("echo", echo), ("printf", printf), ("test", test), ("[", bracket), ("cd", cd), ("chdir", cd),
    ("pwd", pwd), ("export", exportNames), ("readonly", fixNames), ("local", localNames),
    ("unset", unset), ("set", setOptions), ("shift", shiftArgs), ("read", readVariables),
    ("getopts", getopts), ("kill", kill), ("trap", trap), ("times", times), ("ulimit", ulimit),
    ("umask", umask), ("alias", setAliases), ("unalias", unsetAliases), ("type", describeNames),
    ("hash", rememberPrograms), ("jobs", fun _ => return 0),
    ("fg", fun _ => fatal "No current job"), ("bg", fun _ => fatal "No current job"),
    ("exit", fun args => do
      let s ← shell
      throw (.exit ((← firstNumber (s.trapStatus.getD s.status) args) % 256))),
    ("return", fun args => do
      let n ← firstNumber (← shell).status args
      throw (.leaveFunction (n % 256))),
    ("break", leaveLoop .leaveLoops), ("continue", leaveLoop .nextRound)]
where
  /-- Leaves loops, at most those that there are. -/
  leaveLoop (stop : Nat → Stop) : Utility := fun args => do
    let n ← firstNumber 1 args
    if n = 0 then fatal ("Illegal number: " ++ args.headD "")
    match min n (← shell).loops with
    | 0 => return 0
    | n + 1 => throw (stop (n + 1))

/-- Runs a command of the shell itself. A fault of one that is not special is only its status. -/
def performBuiltin (special : Bool) (name : String) (body : Eval Nat) : Eval Nat := do
  let result ← attempt (speakingAs name body)
  let unwritten := (← shell).unwritten
  changeShell fun s => { s with unwritten := none }
  match result with
  | .ok status =>
    if unwritten.isSome then
      speakingAs name (complainAt (name ++ ": I/O error"))
      return status ||| 1
    else return status
  | .error .fault => if special then throw .fault else return 2
  | .error stop => throw stop

/-! ## Calls of the shell -/

/-- The text of a script in a file. -/
def scriptText (path : String) : Eval String := do
  let s ← get
  let bytes ← match find s.world.root s.shell.directory true path with
    | .ok (_, .device d) => readDevice d none
    | _ => pure (read s.world.root s.shell.directory path)
  match bytes with
  | .ok bytes => return Text.decodeLossy bytes
  | .error .isDirectory => return ""
  | .error fault =>
    fatal ("cannot open " ++ path ++ ": " ++ openingWords "No such file" fault)

/-- The shell that a process becomes: it keeps what processes hand on. -/
def freshShell (parent : Nat) (name : String) (args : List String) (settings : Settings)
    (s : Session) : Session :=
  let passed := s.bindings.filter (·.2.exported)
  let own (name value : String) : String × Variable :=
    (name, { value := some value, exported := (passed.lookup name).isSome })
  let fixed := [own "IFS" " \t\n", own "OPTIND" "1", own "PPID" (toString parent),
    own "PS1" "# ", own "PS2" "> ", own "PS4" "+ "]
  let path := if (passed.lookup "PATH").isSome then [] else [own "PATH" defaultPath]
  { name, args, settings
    bindings := (passed.filter fun b => isName b.1.toList && (fixed.lookup b.1).isNone) ++
      fixed ++ path
    process := s.self
    self := s.self
    ancestors := s.ancestors
    traps := ignoredOnly s.traps
    directory := s.directory
    streams := s.streams
    mask := s.mask }

/-- How a round of a loop ended, or none if the loop has to be left. Ends of loops further out go on
to stop what is around. -/
def loopStatus : Except Stop Unit → Eval (Option Unit)
  | .ok _ => return some ()
  | .error (.leaveLoops n) => if n > 1 then throw (.leaveLoops (n - 1)) else return none
  | .error (.nextRound n) => if n > 1 then throw (.nextRound (n - 1)) else return some ()
  | .error stop => throw stop

/-- Runs the body of a loop once; whether the loop may go on. A loop that is left has the status
zero of what left it. -/
def inLoop (body : Eval Unit) : Eval Bool := do
  changeShell fun s => { s with loops := s.loops + 1 }
  let result ← attempt body
  changeShell fun s => { s with loops := s.loops - 1 }
  if result matches .error (.leaveLoops _) | .error (.nextRound _) then setStatus 0
  return (← loopStatus result).isSome

/-- Runs a function with arguments of its own. -/
def inFunction (args : List String) (body : Eval Unit) : Eval Unit := do
  let saved ← shell
  changeShell fun s =>
    { s with
      args, loops := 0, locals := some [], ownSettings := none
      optionNext := 1, optionPlace := none }
  let result ← attempt body
  let inner ← shell
  restoreAll (inner.locals.getD [])
  changeShell fun s =>
    { s with
      args := saved.args, loops := saved.loops, locals := saved.locals
      settings := inner.ownSettings.getD s.settings, ownSettings := saved.ownSettings
      optionNext := saved.optionNext, optionPlace := saved.optionPlace }
  match result with
  | .ok _ => return ()
  | .error (.leaveFunction n) => setStatus n
  | .error stop => throw stop

/-- How much the writers of a pipeline may write before their readers have to show that they want
more. -/
def pipeLimits : List Nat :=
  [65536, 1048576, 8388608]

mutual

/-- Runs a script. -/
def run : (fuel : Nat) → Manner → Script → Eval Unit
  | 0, _, _ => throw .timeOver
  | fuel + 1, m, script => do
    if (← shell).settings.contains .noexec then return ()
    runDueJobs (runBehind fuel)
    runTraps fuel
    match script with
    | .nothing => return ()
    | .simple line assignments words redirections =>
      runSimple fuel m line assignments words redirections
      runTraps fuel
      checkStatus m
    | .pipeline parts =>
      setStatus (← runPipeline fuel m pipeLimits parts)
      runTraps fuel
      checkStatus m
    | .negated s =>
      run fuel .condition s
      setStatus (if (← shell).status = 0 then 1 else 0)
    | .both a b =>
      run fuel .condition a
      if (← shell).status = 0 then run fuel m b
    | .either a b =>
      run fuel .condition a
      if (← shell).status ≠ 0 then run fuel m b
    | .sequence a b =>
      run fuel m.inside a
      run fuel m b
    | .background s =>
      startJob s
      setStatus 0
    | .apart s =>
      runApart fuel m [] s
      runTraps fuel
      checkStatus m
    | .redirected (.apart s) redirections =>
      runApart fuel m redirections s
      runTraps fuel
      checkStatus m
    | .redirected s redirections =>
      let saved := (← shell).streams
      if ← redirectAll (printed fuel) redirections then
        finallyDo (run fuel m.inside s) (restoreStreams saved redirections)
      else
        restoreStreams saved redirections
        setStatus 2
        checkStatus m
    | .branch condition yes no =>
      run fuel .condition condition
      if (← shell).status = 0 then run fuel m yes
      else
        if no matches .nothing then setStatus 0
        run fuel m no
    | .loop goOn condition body => runLoop fuel m.inside goOn condition body 0
    | .each name words body =>
      let values ← match words with
        | some ws => expandWords (printed fuel) ws
        | none => pure (← shell).args
      if values.isEmpty then setStatus 0
      runEach fuel m.inside name body values
    | .select word arms =>
      let text ← expandText (printed fuel) word
      runSelect fuel m (toOctets text.toList) arms
    | .define name body =>
      changeShell fun s =>
        { s with functions := (name, body) :: s.functions.filter (·.1 ≠ name), status := 0 }
    | .numbered line s =>
      changeShell fun s => { s with line }
      run fuel m s

/-- Runs a script in a shell of its own, which the process becomes if nothing is left to be done. -/
def runApart : (fuel : Nat) → Manner → List Redirection → Script → Eval Unit
  | 0, _, _, _ => throw .timeOver
  | fuel + 1, m, redirections, s => do
    let body : Eval Unit := do
      if ← redirectAll (printed fuel) redirections then run fuel { m with last := true } s
      else throw (.exit 2)
    if m.last && !(← shell).hasTraps then
      body
      throw (.exit (← shell).status)
    else setStatus (← announce (← asChild (closeShell fuel) body))

/-- Goes round a loop as long as its condition has the given outcome. -/
def runLoop : (fuel : Nat) → Manner → (goOn : Bool) → (condition body : Script) →
    (status : Nat) → Eval Unit
  | 0, _, _, _, _, _ => throw .timeOver
  | fuel + 1, m, goOn, condition, body, status => do
    let more ← inLoop (run fuel .condition condition)
    if more && ((← shell).status = 0) = goOn then
      let more ← inLoop (run fuel m body)
      if more then runLoop fuel m goOn condition body (← shell).status
    else if more then setStatus status

/-- Goes round a loop once for each value. -/
def runEach : (fuel : Nat) → Manner → (name : String) → (body : Script) → List String →
    Eval Unit
  | 0, _, _, _, _ => throw .timeOver
  | _ + 1, _, _, _, [] => return ()
  | fuel + 1, m, name, body, value :: rest => do
    setVariable name value
    if ← inLoop (run fuel m body) then runEach fuel m name body rest

/-- Runs the first arm with a pattern that matches octets. -/
def runSelect : (fuel : Nat) → Manner → (text : List Char) → List (List Word × Script) →
    Eval Unit
  | 0, _, _, _ => throw .timeOver
  | _ + 1, _, _, [] => setStatus 0
  | fuel + 1, m, text, (patterns, body) :: rest => do
    if ← anyMatches fuel text patterns then
      if body matches .nothing then setStatus 0
      run fuel m body
    else runSelect fuel m text rest

/-- Whether one of some patterns matches octets. -/
def anyMatches : (fuel : Nat) → (text : List Char) → List Word → Eval Bool
  | 0, _, _ => throw .timeOver
  | _ + 1, _, [] => return false
  | fuel + 1, text, word :: rest => do
    let parts ← expandPattern (printed fuel) word
    if matchesParts parts text then return true else anyMatches fuel text rest

/-- Runs a pipeline whose writers may write so much. If its end wants more, it is run anew from
where it began with a greater limit. -/
def runPipeline : (fuel : Nat) → Manner → (limits : List Nat) → List Script → Eval Nat
  | 0, _, _, _ => throw .timeOver
  | _ + 1, _, [], _ => throw .starved
  | fuel + 1, m, limit :: limits, parts => do
    let before ← get
    match ← attempt (runParts fuel m limit none before.world.clock before.world.clock parts) with
    | .ok status => return status
    | .error .starved =>
      let own := (← world).channels.toList.drop before.world.channels.size
      if own.any Channel.cut then
        set before
        runPipeline fuel m limits parts
      else throw .starved
    | .error stop => throw stop

/-- Runs the parts of a pipeline, the first of which reads from a channel if one is given. All begin
at one time, and the pipeline ends when the last of them has. -/
def runParts : (fuel : Nat) → Manner → (limit : Nat) → (input : Option Nat) →
    (begins ends : Nat) → List Script → Eval Nat
  | 0, _, _, _, _, _, _ => throw .timeOver
  | _ + 1, _, _, _, _, _, [] => return 0
  | fuel + 1, m, limit, input, begins, ends, part :: rest => do
    let setInput : Eval Unit := match input with
      | some i => setStream 0 (.channel i)
      | none => return ()
    changeWorld fun w => { w with clock := begins, hungry := false }
    match rest with
    | [] =>
      let finish ← asChild (closeShell fuel) do
        setInput
        run fuel { m with last := true } part
      refuseHunger
      passUntil ends
      announce finish
    | rest =>
      let n ← newChannel (some limit)
      let result ← attempt <| asChild (closeShell fuel) do
        setInput
        setStream 1 (.channel n)
        run fuel { m with last := true } part
      let clock := (← world).clock
      let cutShort : Eval Unit :=
        changeWorld fun w =>
          { w with channels := w.channels.modify n ({ · with cut := true }), hungry := false }
      let ends ← match result with
        | .ok finish =>
          let _ ← announce finish
          awaitWriters (runBehind fuel) n
          pure (if finish.signal = some unreadSignal then ends else max ends clock)
        | .error .starved | .error .timeOver =>
          cutShort
          pure ends
        | .error stop => throw stop
      runParts fuel m limit (some n) begins ends rest

/-- What a script prints, in a shell of its own. -/
def printed : (fuel : Nat) → Script → Eval String
  | 0, _ => throw .timeOver
  | fuel + 1, s => do
    let n ← newChannel none
    let finish ← asChild (closeShell fuel) do
      setStream 1 (.channel n)
      run fuel { last := true } s
    let status ← announce finish
    awaitWriters (runBehind fuel) n
    changeShell fun sh => { sh with substitution := some status }
    return Text.decodeLossy ⟨(← written n).data.filter (· ≠ 0)⟩

/-- Runs a script in the background to its end. -/
def runBehind : (fuel : Nat) → Script → Eval Finish
  | 0, _ => throw .timeOver
  | fuel + 1, s => do
    let result ← attempt (run fuel { last := true } s)
    closeShell fuel result

/-- Reacts to the signals that the shell has got. -/
def runTraps : (fuel : Nat) → Eval Unit
  | 0 => throw .timeOver
  | fuel + 1 => do
    if (← world).signals.isEmpty then return ()
    let self := (← shell).self
    let (own, others) := (← world).signals.partition (·.1 = self)
    if own.isEmpty then return ()
    changeWorld fun w => { w with signals := others }
    runTrapsOf fuel ((List.range (lastSignal + 1)).filter fun n => n > 0 && own.contains (self, n))

/-- Reacts to signals. -/
def runTrapsOf : (fuel : Nat) → List Nat → Eval Unit
  | 0, _ => throw .timeOver
  | _ + 1, [] => return ()
  | fuel + 1, n :: rest => do
    let s ← shell
    if endsProcess s.traps n then throw (.signal s.self n)
    if let some (.run script) := s.traps.lookup n then
      changeShell fun sh => { sh with trapStatus := some (s.trapStatus.getD s.status) }
      let result ← attempt (runText fuel {} false { rest := script.toList } false)
      changeShell fun sh => { sh with trapStatus := s.trapStatus, line := s.line }
      match result with
      | .ok _ => setStatus s.status
      | .error stop => throw stop
    runTrapsOf fuel rest

/-- Ends a shell that stopped in some way: what it does at its exit is done. -/
def closeShell : (fuel : Nat) → Except Stop Unit → Eval Finish
  | 0, _ => throw .timeOver
  | fuel + 1, result => do
    let finish ← finishOf result
    match finish.signal, (← shell).traps.lookup 0 with
    | none, some (.run script) =>
      changeShell fun s =>
        { s with
          traps := s.traps.filter (·.1 ≠ 0)
          status := finish.status, trapStatus := some finish.status, loops := 0 }
      match ← attempt (runText fuel {} false { rest := script.toList } false) with
      | .ok _ | .error (.leaveFunction _) => return finish
      | result => finishOf result
    | _, _ => return finish

/-- Runs a simple command. -/
def runSimple : (fuel : Nat) → Manner → (line : Nat) → (assignments : List (String × Word)) →
    (words : List Word) → (redirections : List Redirection) → Eval Unit
  | 0, _, _, _, _, _ => throw .timeOver
  | fuel + 1, m, line, assignments, words, redirections => do
    changeShell fun s => { s with line, substitution := none }
    pass commandTime
    let fields ← expandCommand (printed fuel) words []
    let saved := (← shell).streams
    let faults ← streamOf 2
    match fields with
    | [] =>
      let done ← redirectAll (printed fuel) redirections
      if done then
        let assigned ← assignAll (printed fuel) false assignments
        trace (printed fuel) faults assigned []
      restoreStreams saved redirections
      let s ← shell
      setStatus (if done then s.substitution.getD 0 else 2)
    | name :: args =>
      let r := Resolved.ofFields (← shell) name args
      let function := !r.plain && ((← shell).functions.lookup r.name).isSome
      let special := !r.plain && !function && specialNames.contains r.name
      if ← redirectAll (printed fuel) redirections then
        let running := r.name = "exec" && !function && !r.args.isEmpty
        let assigned ← assignAll (printed fuel) (!special || running) assignments
        trace (printed fuel) faults assigned fields
        let result ← attempt (runCommand fuel m r)
        let lasting := r.name = "exec" && !function && r.args.isEmpty
        if !lasting then restoreStreams saved redirections
        if !special then restoreAll (assigned.map fun a => (a.name, a.before))
        match result with
        | .ok status => setStatus status
        | .error stop => throw stop
      else
        restoreStreams saved redirections
        setStatus 2
        if special then throw .fault

/-- Runs a command: a function, a command of the shell itself, or a program. -/
def runCommand : (fuel : Nat) → Manner → Resolved → Eval Nat
  | 0, _, _ => throw .timeOver
  | fuel + 1, m, r => do
    let sh ← shell
    let function := if r.plain then none else sh.functions.lookup r.name
    let special := !r.plain && specialNames.contains r.name
    match function with
    | some body => do
      inFunction r.args (run fuel m.inside body)
      return (← shell).status
    | none =>
      match builtins.lookup r.name with
      | some body => performBuiltin special r.name (body r.args)
      | none =>
        match r.name with
        | "eval" =>
          performBuiltin special r.name do
            let line := (← shell).line
            let text := (" ".intercalate r.args).toList
            runText fuel m.inside false { rest := text } false
            changeShell fun s => { s with line }
            return (← shell).status
        | "." => performBuiltin special r.name (source fuel r.args)
        | "exec" => performBuiltin special r.name (takePlace fuel r)
        | "command" => performBuiltin special r.name (explainCommand r.args)
        | "wait" =>
          performBuiltin special r.name do
            match shellOptions "" "" r.args with
            | .error message => fatal message
            | .ok o =>
              let named (w : World) (arg : String) : Eval (Option Job) := do
                let self := (← shell).self
                if arg.startsWith "%" then
                  match namedJob? w self arg with
                  | some j => return some j
                  | none => fatal ("No such job: " ++ arg)
                else
                  let n ← neededNumber arg
                  return w.jobs.find? fun j => j.process = n && j.owner = self
              if o.operands.isEmpty then waitForAll (runBehind fuel) maxJobs
              else waitFor (runBehind fuel) named o.operands 127
        | name =>
          let own := (← valueOf "PATH").getD ""
          let path := if r.standard then defaultPath else own
          match ← searchProgram path name r.args with
          | .ok call =>
            if m.last && !(← shell).hasTraps then throw (.exit (← runCall fuel call))
            else announce (← asChild finishOf do setStatus (← runCall fuel call))
          | .error refusal =>
            complainAt (name ++ ": " ++ refusal.words)
            return refusal.status

/-- Runs a program as a shell calls it. -/
def runCall : (fuel : Nat) → Call → Eval Nat
  | 0, _ => throw .timeOver
  | fuel + 1, call => do
    changeShell fun s => { s with bindings := s.environment, speaker := none }
    runUtility fuel call.utility call.name call.args

/-- `exec` puts a program in the place of the process. -/
def takePlace : (fuel : Nat) → Resolved → Eval Nat
  | 0, _ => throw .timeOver
  | fuel + 1, r => do
    match shellOptions "" "" r.args with
    | .error message => fatal message
    | .ok o =>
      match o.operands with
      | [] => return 0
      | name :: args =>
        let path := (← valueOf "PATH").getD ""
        match ← searchProgram path name args with
        | .ok call =>
          changeShell fun s => { s with traps := ignoredOnly s.traps }
          throw (.exit (← runCall fuel call))
        | .error refusal =>
          complainAt (name ++ ": " ++ refusal.words)
          throw (.exit refusal.status)

/-- `.` runs the script in a file. -/
def source : (fuel : Nat) → List String → Eval Nat
  | 0, _ => throw .timeOver
  | fuel + 1, args => do
    match shellOptions "" "" args with
    | .error message => fatal message
    | .ok o =>
      match o.operands with
      | [] => return 0
      | name :: _ =>
        let s ← get
        let there (p : String) : Bool := match find s.world.root s.shell.directory true p with
          | .ok (_, .file ..) => true
          | _ => false
        let path ←
          if name.toList.contains '/' then pure name
          else match (← candidates name).find? there with
            | some path => pure path
            | none => fatal (name ++ ": not found")
        let script ← scriptText path
        let line := (← shell).line
        let result ← attempt (speakingAs path do
          runText fuel {} true { rest := script.toList } false)
        changeShell fun s => { s with line }
        match result with
        | .ok _ => return (← shell).status
        | .error (.leaveFunction n) => return n
        | .error stop => throw stop

/-- Runs the lines of a text, each before the next one is read. `shown` says whether its lines may
be shown, and `started` whether a command has been run. -/
def runText : (fuel : Nat) → Manner → (shown : Bool) → Input → (started : Bool) → Eval Unit
  | 0, _, _, _, _ => throw .timeOver
  | fuel + 1, m, shown, input, started => do
    let s ← shell
    match readLine { input with documents := s.documents, aliases := s.aliases } with
    | .error (line, fault) =>
      changeShell fun s => { s with line }
      fatal ("Syntax error: " ++ fault.message)
    | .ok none =>
      if !started then setStatus 0
    | .ok (some (script, rest)) =>
      changeShell fun s => { s with documents := rest.documents }
      if shown && s.settings.contains .verbose then
        let text := input.rest.take (input.rest.length - rest.rest.length)
        write 2 (String.ofList text).toUTF8
      run fuel m script
      runText fuel m shown rest true

/-- Runs a utility in this process. -/
def runUtility : (fuel : Nat) → (name calledAs : String) → Utility
  | 0, _, _, _ => throw .timeOver
  | fuel + 1, name, calledAs, args => do
    let launcher : Launcher := {
      start := fun limit name args => do
        match ← findProgram name args with
        | .error fault => return .error fault
        | .ok call =>
          let finish ← asChild finishOf do
            alarm limit
            setStatus (← runUtility fuel call.utility call.name call.args)
          return .ok finish
      become := fun name args => do
        match ← findProgram name args with
        | .error fault => return .error fault
        | .ok call => .ok <$> runUtility fuel call.utility call.name call.args }
    if ["sh", "dash", "bash"].contains name then newShell fuel calledAs args
    else
      match utilities.lookup name, launching.lookup name with
      | some body, _ => performUtility name calledAs body args
      | none, some body => performUtility name calledAs (body launcher) args
      | none, none =>
        complain (calledAs ++ ": cannot execute")
        return 126

/-- Makes this process a new shell, and runs its script. -/
def newShell : (fuel : Nat) → (calledAs : String) → List String → Eval Nat
  | 0, _, _ => throw .timeOver
  | fuel + 1, calledAs, args => do
    let parent := (((← shell).ancestors.head?).map Prod.fst).getD 999
    changeShell (freshShell parent calledAs [] [])
    let path := startPath (← get)
    changeShell fun s => { s with path, line := 0 }
    exportValue "PWD" path
    let result ← attempt do
      match commandLine args with
      | .error message => fatal message
      | .ok c =>
        let args := c.args.getD []
        printLines c.listing
        changeShell fun s => { s with settings := c.options }
        match c.source, args with
        | .text, script :: args =>
          changeShell fun s =>
            { s with name := args.headD calledAs, args := args.drop 1, line := 1 }
          runText fuel {} false { rest := script.toList } false
        | .text, [] => fatal "-c requires an argument"
        | .file, file :: args =>
          let script ← scriptText file
          changeShell fun s => { s with name := file, args, line := 1 }
          runText fuel {} true { rest := script.toList } false
        | _, args =>
          let script ← readFrom 0 none
          refuseHunger
          changeShell fun s => { s with args, settings := s.settings.set .stdin true, line := 1 }
          let bytes := script.toOption.getD ⟨#[]⟩
          runText fuel {} true { rest := (Text.decodeLossy bytes).toList } false
    let finish ← closeShell fuel result
    match finish.signal with
    | some n => throw (.signal (← shell).self n)
    | none => return finish.status

end

/-- The fuel for a command line. -/
def maxDepth : Nat := 1000000

/-- Runs a program with a name, and then what is left of it in the background as far as it writes to
some channels. -/
def runProgram (call : Call) (outputs : List Nat) : Eval Nat := do
  pass startTime
  let result ← attempt (runUtility maxDepth call.utility call.name call.args)
  for i in outputs do awaitWriters (runBehind maxDepth) i
  match result with
  | .ok status => return status
  | .error stop => throw stop

end Assay.Shell
