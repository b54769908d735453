import Assay.Utility.Awk.State

/-!
# Running programs of `awk`

The rules for the beginning are carried out, then for each record of the input the rules whose
patterns hold, and at last the rules for the end.
-/

namespace Assay.Awk

open Machine Host Shell Expression

/-- What can be assigned to. -/
inductive Destination where
  | variable (n : Name)
  | field (i : Nat)
  | element (table : Nat) (key : Key) (number : Option Int)

/-- The value of a target. An element that is not there yet comes to be. -/
def Destination.value : Destination → Action Cell
  | .variable n => cellOf n
  | .field i => fieldCell i
  | .element place key number =>
    withTable place fun t =>
      match t.get? key with
      | some c => (c, t.touch key number)
      | none => (.empty, t.insert key number .empty)

/-- Assigns to a target. -/
def Destination.assign (c : Cell) : Destination → Action Unit
  | .variable n => setCell n c
  | .field i => setField i c
  | .element place key number => withTable place fun t => ((), t.insert key number c)

/-- The octets of a text that a value is. -/
def shownText (bs : List UInt8) : String :=
  Text.decodeLossy ⟨bs.toArray⟩

/-- Writes values by a format. -/
def formatted (name : String) (format : List UInt8) (cs : List Cell) :
    Action (List UInt8 × Option String) := do
  let conv ← convFormat
  let r := formatCells (Cell.toText conv) (format.length + 1) 1 (charsOf format) cs
  return (r.bytes, r.fault.map fun f => f ++ name ++ "(\"" ++ shownText format ++ "\")")

/-- Sets the record by what was read, or a target if there is one. -/
def putRead (target : Option Destination) (bs : List UInt8) : Action Unit := do
  match target with
  | some t => t.assign (.ofInput bs)
  | none => setRecord (.ofInput bs)

/-- Reads a line from a file or a command that is kept open: 1, or 0 at the end, or -1 if it cannot
be opened. -/
def readFrom (launcher : Launcher) (command : Bool) (name : List UInt8)
    (target : Option Destination) : Action Cell := do
  let opened? ← match (← get).readers.lookup name with
    | some o => pure (some o)
    | none => do
      if command then
        flush
        let o ← inShell do
          let channel ← newChannel none
          let status ← runCommand launcher name none (some channel)
          let bytes ← written channel
          return ({ source := { bytes }, status := some status } : Opened)
        pure (some o)
      else
        let path := shownText name
        match ← inShell (readWhole (if path = "/dev/stdin" then "-" else path)) with
        | .ok bytes => pure (some { source := { bytes } })
        | .error _ => pure none
  match opened? with
  | none => return .number (-1)
  | some o =>
    let sep ← separatorOf (← sharedText "RS")
    match o.source.next sep with
    | none =>
      modify fun m => { m with readers := (name, o) :: m.readers.filter (·.1 ≠ name) }
      return .number 0
    | some (bs, source) =>
      modify fun m =>
        { m with readers := (name, { o with source }) :: m.readers.filter (·.1 ≠ name) }
      putRead target bs
      if command then setShared "NR" (.number ((← sharedCell "NR").toNumber + 1))
      return .number 1

/-- Closes a file or a command; its status, or -1 if it was not open. -/
def close (launcher : Launcher) (name : List UInt8) : Action Cell := do
  let m ← get
  let writer? := m.writers.lookup name
  let reader? := m.readers.lookup name
  set { m with
    writers := m.writers.filter (·.1 ≠ name), readers := m.readers.filter (·.1 ≠ name) }
  match writer?, reader? with
  | some w, _ => return .number (Float.ofNat (← closeWriter launcher name w))
  | none, some o => return .number (Float.ofNat (o.status.getD 0))
  | none, none => return .number (-1)

/-- Replaces what is found in a target; how often. -/
def substitute (a : Automaton) (every : Bool) (text : List UInt8) (target : Destination) :
    Action Cell := do
  let bs ← textOf (← target.value)
  let (result, count) := replaceMatches a every text { octets := ⟨bs.toArray⟩ } (2 * bs.length + 4)
    0 none
  if count > 0 then target.assign (.text result)
  return .number (Float.ofNat count)

/-- Does something until it says how it is left: a jump out of a loop ends it, and one to its next
round goes on. -/
def inLoop (body : Action Unit) : Action Bool := fun m => do
  let (result, m) ← body m
  match result with
  | .ok _ | .error .nextRound => return (.ok true, m)
  | .error .leaveLoop => return (.ok false, m)
  | .error j => return (.error j, m)

/-- Runs the body of a function; what it gives back. -/
def inCall (body : Action Unit) : Action Cell := fun m => do
  let (result, m) ← body m
  match result with
  | .ok _ => return (.ok .empty, m)
  | .error (.giveBack c) => return (.ok c, m)
  | .error j => return (.error j, m)

mutual

/-- The value of an expression. -/
def eval (p : Program) (l : Launcher) : (fuel : Nat) → Expr → Action Cell
  | 0, _ => inShell (throw Stop.timeOver)
  | fuel + 1, e => do
    match e with
    | .number x => return .number x
    | .text bs => return .text bs
    | .regex a =>
      let bs ← textOf (← get).record
      return .ofBool (a.occursIn { octets := ⟨bs.toArray⟩ })
    | .variable n => cellOf n
    | .field _ | .element .. => (← targetOf p l fuel e).value
    | .assign op target value =>
      let t ← targetOf p l fuel target
      match op with
      | none =>
        let c ← eval p l fuel value
        t.assign c
        return c
      | some op =>
        let y := (← eval p l fuel value).toNumber
        let c := Cell.number (op.apply (← t.value).toNumber y)
        t.assign c
        return c
    | .bump before step target =>
      let t ← targetOf p l fuel target
      let x := (← t.value).toNumber
      t.assign (.number (x + step))
      return .number (if before then x + step else x)
    | .conditional c a b =>
      if (← eval p l fuel c).holds then eval p l fuel a else eval p l fuel b
    | .both a b =>
      if (← eval p l fuel a).holds then return .ofBool (← eval p l fuel b).holds
      else return .ofBool false
    | .either a b =>
      if (← eval p l fuel a).holds then return .ofBool true
      else return .ofBool (← eval p l fuel b).holds
    | .not a => return .ofBool (!(← eval p l fuel a).holds)
    | .minus a => return .number (-(← eval p l fuel a).toNumber)
    | .plus a => return .number (← eval p l fuel a).toNumber
    | .arithmetic op a b =>
      let x := (← eval p l fuel a).toNumber
      let y := (← eval p l fuel b).toNumber
      return .number (op.apply x y)
    | .compare c a b =>
      let x ← eval p l fuel a
      let y ← eval p l fuel b
      return .ofBool (x.compare (← convFormat) c y)
    | .joined a b =>
      let x ← textOf (← eval p l fuel a)
      let y ← textOf (← eval p l fuel b)
      return .text (x ++ y)
    | .found wanted subject pattern =>
      let bs ← textOf (← eval p l fuel subject)
      let a ← patternOf p l fuel pattern
      return .ofBool (a.occursIn { octets := ⟨bs.toArray⟩ } == wanted)
    | .member subscripts table =>
      let (key, number) ← keyOfCells (← evalAll p l fuel subscripts)
      let place ← tablePlace table
      return .ofBool (← withTable place fun t => t.look key number)
    | .grouped a => eval p l fuel a
    | .listed es =>
      let texts ← (← evalAll p l fuel es).mapM textOf
      return .text texts.flatten
    | .call name args => call p l fuel name args
    | .builtin b args => perform p l fuel b args
    | .getline origin source target =>
      let target ← match target with
        | some t => some <$> targetOf p l fuel t
        | none => pure none
      match origin, source with
      | .file, some s => readFrom l false (← textOf (← eval p l fuel s)) target
      | .command, some s => readFrom l true (← textOf (← eval p l fuel s)) target
      | _, _ =>
        match ← countedRecord with
        | none => return .number 0
        | some bs =>
          putRead target bs
          return .number 1

/-- The values of expressions. -/
def evalAll (p : Program) (l : Launcher) : (fuel : Nat) → List Expr → Action (List Cell)
  | 0, _ => inShell (throw Stop.timeOver)
  | _ + 1, [] => return []
  | fuel + 1, e :: es => do
    let c ← eval p l fuel e
    return c :: (← evalAll p l fuel es)

/-- What an expression stands for as a target. -/
def targetOf (p : Program) (l : Launcher) : (fuel : Nat) → Expr → Action Destination
  | 0, _ => inShell (throw Stop.timeOver)
  | fuel + 1, e => do
    match e with
    | .variable n => return .variable n
    | .grouped e => targetOf p l fuel e
    | .element table subscripts =>
      let (key, number) ← keyOfCells (← evalAll p l fuel subscripts)
      return .element (← tablePlace table) key number
    | .field e =>
      let x := (← eval p l fuel e).toNumber
      if x < 0 then
        failAt ("negative field index $" ++ shownText (← textOf (.number x)))
      return .field (wholeNumber x).toNat
    | e =>
      let _ ← eval p l fuel e
      return .field 0

/-- The automaton of an expression that is looked for. -/
def patternOf (p : Program) (l : Launcher) : (fuel : Nat) → Expr → Action Automaton
  | 0, _ => inShell (throw Stop.timeOver)
  | fuel + 1, e => do
    match e with
    | .regex a => return a
    | e => automatonOf (← textOf (← eval p l fuel e))

/-- Calls a function. A parameter without a value that becomes a table makes a table of the
variable that was given for it. -/
def call (p : Program) (l : Launcher) :
    (fuel : Nat) → (name : String) → List Expr → Action Cell
  | 0, _, _ => inShell (throw Stop.timeOver)
  | fuel + 1, name, args => do
    match p.functions.lookup name with
    | none => return .empty
    | some f =>
      step
      let slots ← argumentsOf p l fuel args
      let m ← get
      if maxDepth < m.depth then fail "function call nesting too deep"
      let outer := m.frame
      let own := slots ++ List.replicate (f.parameters - slots.length) Slot.empty
      set { m with frame := own.toArray, depth := m.depth + 1 }
      let c ← inCall (exec p l fuel f.body)
      let inner := (← get).frame
      modify fun m => { m with frame := outer, depth := m.depth - 1 }
      for (arg, slot, i) in args.zip (slots.zipIdx) do
        match arg, slot, inner[i]? with
        | .variable (.own j), .empty, some (.table t) =>
          modify fun m => { m with frame := m.frame.setIfInBounds j (.table t) }
        | .variable (.shared s), .empty, some (.table t) =>
          modify fun m => { m with sharedTables := m.sharedTables.insert s t }
        | _, _, _ => pure ()
      return c

/-- What is given for the parameters of a function. -/
def argumentsOf (p : Program) (l : Launcher) : (fuel : Nat) → List Expr → Action (List Slot)
  | 0, _ => inShell (throw Stop.timeOver)
  | _ + 1, [] => return []
  | fuel + 1, e :: es => do
    let m ← get
    let slot ← match e with
      | .variable (.own i) => pure ((m.frame[i]?).getD .empty)
      | .variable (.shared s) =>
        match m.sharedTables[s]? with
        | some t => pure (Slot.table t)
        | none =>
          match ← sharedCell s with
          | .empty => pure Slot.empty
          | c => pure (Slot.cell c)
      | e => Slot.cell <$> eval p l fuel e
    return slot :: (← argumentsOf p l fuel es)

/-- Performs a function that needs no definition. -/
def perform (p : Program) (l : Launcher) :
    (fuel : Nat) → Builtin → List Expr → Action Cell
  | 0, _, _ => inShell (throw Stop.timeOver)
  | fuel + 1, b, args => do
    let text (i : Nat) : Action (List UInt8) := do
      match args[i]? with
      | some e => textOf (← eval p l fuel e)
      | none => return []
    let numeric (i : Nat) : Action Float := do
      match args[i]? with
      | some e => return (← eval p l fuel e).toNumber
      | none => return 0
    let ofFloat (f : Float → Float) : Action Cell := do
      return .number (f (← numeric 0))
    match b with
    | .length =>
      let m ← get
      match args with
      | [] => return .number (Float.ofNat (← textOf m.record).length)
      | [.variable n] =>
        let place? := match n with
          | .shared s => m.sharedTables[s]?
          | .own i => match m.frame[i]? with
            | some (.table t) => some t
            | _ => none
        match place?.bind fun t => m.tables[t]? with
        | some t => return .number (Float.ofNat t.size)
        | none => return .number (Float.ofNat (← textOf (← cellOf n)).length)
      | _ => return .number (Float.ofNat (← text 0).length)
    | .substr =>
      let bs ← text 0
      let start := wholeNumber (← numeric 1)
      let length ← if args.length > 2 then some <$> numeric 2 else pure none
      return .text (partFrom bs start (length.map wholeNumber))
    | .index =>
      let bs ← text 0
      let part ← text 1
      return .number (Float.ofNat (placeOf part 1 bs))
    | .split =>
      let bs ← text 0
      let splitter ← match args[2]? with
        | none => splitterOf (← sharedText "FS")
        | some (Expr.regex a) => pure (Splitter.found a)
        | some e => splitterOf (← textOf (← eval p l fuel e))
      let place ← match args[1]? with
        | some (Expr.variable n) => tablePlace n
        | _ => newTable
      let parts := (splitter.parts bs).map Cell.ofInput
      withTable place fun _ => ((), Table.ofList parts)
      return .number (Float.ofNat parts.length)
    | .sub | .gsub =>
      match args with
      | pattern :: _ :: rest =>
        let a ← patternOf p l fuel pattern
        let replacement ← text 1
        let target ← match rest with
          | e :: _ => targetOf p l fuel e
          | [] => pure (.field 0)
        substitute a (b = .gsub) replacement target
      | _ => return .empty
    | .match =>
      let bs ← text 0
      let a ← match args[1]? with
        | some e => patternOf p l fuel e
        | none => automatonOf []
      let (start, length) : Float × Float :=
        match a.find { octets := ⟨bs.toArray⟩ } 0 with
        | some f => (Float.ofNat (f.start + 1), Float.ofNat (f.stop - f.start))
        | none => (0, -1)
      setShared "RSTART" (.number start)
      setShared "RLENGTH" (.number length)
      return .number start
    | .sprintf =>
      match ← evalAll p l fuel args with
      | [] => return .empty
      | c :: cs =>
        match ← formatted "sprintf" (← textOf c) cs with
        | (bs, none) => return .text bs
        | (_, some fault) => failAt fault
    | .sin => ofFloat Float.sin
    | .cos => ofFloat Float.cos
    | .atan2 =>
      let y ← numeric 0
      return .number (Float.atan2 y (← numeric 1))
    | .exp => ofFloat Float.exp
    | .log => ofFloat Float.log
    | .sqrt => ofFloat Float.sqrt
    | .int => ofFloat fun x => if x < 0 then x.ceil else x.floor
    | .rand =>
      modify fun m => { m with random := (m.random * 1103515245 + 12345) % 2147483648 }
      return .number (Float.ofNat (← get).random / 2147483648.0)
    | .srand =>
      let x ← if args.isEmpty then pure 0 else numeric 0
      let before := (← get).seed
      modify fun m => { m with seed := x, random := (wholeNumber x).toNat }
      return .number before
    | .tolower => return .text ((← text 0).map small)
    | .toupper => return .text ((← text 0).map capital)
    | .close => close l (← text 0)
    | .system =>
      let command ← text 0
      flush
      return .number (Float.ofNat (← inShell (runCommand l command none none)))
    | .fflush =>
      flush
      return .number 0

/-- Where output goes by a statement. -/
def goalOf (p : Program) (l : Launcher) :
    (fuel : Nat) → Option (Outlet × Expr) → Action (Option (Outlet × List UInt8))
  | 0, _ => inShell (throw Stop.timeOver)
  | _ + 1, none => return none
  | fuel + 1, some (outlet, e) => do
    return some (outlet, ← textOf (← eval p l fuel e))

/-- Carries out a statement. -/
def exec (p : Program) (l : Launcher) : (fuel : Nat) → Stmt → Action Unit
  | 0, _ => inShell (throw Stop.timeOver)
  | fuel + 1, s => do
    match s with
    | .evaluate e =>
      let _ ← eval p l fuel e
    | .print args goal =>
      let cells ← if args.isEmpty then pure [(← get).record] else evalAll p l fuel args
      let format ← sharedText "OFMT"
      let texts := cells.map (Cell.toText format)
      let ofs ← sharedText "OFS"
      let ors ← sharedText "ORS"
      emitTo (← goalOf p l fuel goal) (ofs.intercalate texts ++ ors)
    | .printf args goal =>
      match ← evalAll p l fuel args with
      | [] => return ()
      | c :: cs =>
        let (bs, fault) ← formatted "printf" (← textOf c) cs
        emitTo (← goalOf p l fuel goal) bs
        if let some f := fault then failAt f
    | .branch c a b =>
      if (← eval p l fuel c).holds then exec p l fuel a
      else if let some b := b then exec p l fuel b
    | .loop c body next =>
      step
      let goes ← match c with
        | some e => pure (← eval p l fuel e).holds
        | none => pure true
      if goes then
        if ← inLoop (exec p l fuel body) then
          if let some n := next then exec p l fuel n
          exec p l fuel s
    | .loopAfter body c =>
      step
      if ← inLoop (exec p l fuel body) then
        if (← eval p l fuel c).holds then exec p l fuel s
    | .forKeys v table body =>
      let place ← tablePlace table
      let keys ← withTable place fun t => t.keys
      forEach p l fuel v body keys
    | .block ss => execAll p l fuel ss
    | .next => throw Jump.next
    | .nextFile => throw Jump.nextFile
    | .leave e =>
      if let some e := e then
        let x := (← eval p l fuel e).toNumber
        modify fun m => { m with status := (wholeNumber x % 256).toNat }
      throw Jump.leave
    | .giveBack e =>
      match e with
      | some e => throw (Jump.giveBack (← eval p l fuel e))
      | none => throw (Jump.giveBack .empty)
    | .leaveLoop => throw Jump.leaveLoop
    | .nextRound => throw Jump.nextRound
    | .delete table subscripts =>
      let (key, number) ← keyOfCells (← evalAll p l fuel subscripts)
      let place ← tablePlace table
      withTable place fun t => ((), t.erase key number)
    | .clear table =>
      let place ← tablePlace table
      withTable place fun _ => ((), {})

/-- Carries out statements one after the other. -/
def execAll (p : Program) (l : Launcher) : (fuel : Nat) → List Stmt → Action Unit
  | 0, _ => inShell (throw Stop.timeOver)
  | _ + 1, [] => return ()
  | fuel + 1, s :: ss => do
    exec p l fuel s
    execAll p l fuel ss

/-- Carries out a statement for each of some keys. -/
def forEach (p : Program) (l : Launcher) :
    (fuel : Nat) → Name → Stmt → List Key → Action Unit
  | 0, _, _, _ => inShell (throw Stop.timeOver)
  | _ + 1, _, _, [] => return ()
  | fuel + 1, v, body, k :: ks => do
    step
    setCell v (.text k)
    if ← inLoop (exec p l fuel body) then forEach p l fuel v body ks

end

/-- The fuel of a program: more than its steps. -/
def runFuel : Nat := 100 * maxSteps

/-- Whether the statements of a rule are carried out for the record. -/
def selects (p : Program) (l : Launcher) (i : Nat) : Pattern → Action Bool
  | .first | .last => return false
  | .always => return true
  | .condition e => return (← eval p l runFuel e).holds
  | .range a b => do
    let within := ((← get).ranges[i]?).getD false
    let set (on : Bool) : Action Unit :=
      modify fun m => { m with ranges := m.ranges.setIfInBounds i on }
    let begins ← if within then pure true else Cell.holds <$> eval p l runFuel a
    if begins then
      let ends := (← eval p l runFuel b).holds
      set (!ends)
    return begins

/-- Carries out the rules for a record. -/
def runRules (p : Program) (l : Launcher) : (i : Nat) → List Rule → Action Unit
  | _, [] => return ()
  | i, r :: rest => do
    if ← selects p l i r.pattern then
      exec p l runFuel (r.body.getD (.print [] none))
    runRules p l (i + 1) rest

/-- Does something for a record, up to a jump to the next one. -/
def forRecord (body : Action Unit) : Action Unit := fun m => do
  let (result, m) ← body m
  match result with
  | .error .nextFile => return (.ok (), { m with source := none })
  | .ok _ | .error .next => return (.ok (), m)
  | .error j => return (.error j, m)

/-- How many records are gone through of an input that has no end. -/
def maxCutRecords : Nat := 600000

/-- Carries out the rules for all records. -/
def runRecords (p : Program) (l : Launcher) : (fuel : Nat) → Action Unit
  | 0 => inShell (throw Stop.timeOver)
  | fuel + 1 => do
    match ← countedRecord with
    | none => return ()
    | some bs =>
      if fuel + maxCutRecords < runFuel then
        -- Without an end to come to, the records are not gone through one by one.
        inShell refuseHunger
      setRecord (.ofInput bs)
      forRecord (runRules p l 0 p.rules)
      runRecords p l fuel

/-- Does something up to a jump to the end of the program; whether there was none. -/
def untilLeft (body : Action Unit) : Action Bool := fun m => do
  let (result, m) ← body m
  match result with
  | .ok _ => return (.ok true, m)
  | .error _ => return (.ok false, m)

/-- Runs a program; its status. -/
def Program.run (p : Program) (l : Launcher) : Action Nat := do
  let bodies (which : Pattern → Bool) : List Stmt :=
    p.rules.filterMap fun r => if which r.pattern then r.body else none
  let first := bodies (· matches .first)
  let last := bodies (· matches .last)
  let every := p.rules.any fun r => !(r.pattern matches .first)
  let went ← untilLeft do
    execAll p l runFuel first
    if every then runRecords p l runFuel
  if !went then
    -- Who stops early does not want what there would have been.
    let _ ← inShell takeHunger
  let _ ← untilLeft (execAll p l runFuel last)
  closeAll l
  return (← get).status

/-- The variables that a program begins with. -/
def initialVariables : List (String × Cell) :=
  [("FS", .text [32]), ("OFS", .text [32]), ("ORS", .text [10]), ("RS", .text [10]),
    ("SUBSEP", .text [28]), ("CONVFMT", .text (textBytes "%.6g")),
    ("OFMT", .text (textBytes "%.6g")), ("NR", .number 0), ("FNR", .number 0),
    ("FILENAME", .text [])]

/-- Sets up what a program begins with, and runs it. -/
def Program.start (p : Program) (l : Launcher) (assigned : List (String × List UInt8))
    (args : List String) : Action Nat := do
  for (name, c) in initialVariables do setShared name c
  modify fun m => { m with ranges := Array.replicate p.rules.length false }
  for t in p.tables do
    let _ ← tablePlace (.shared t)
  let argv ← tablePlace (.shared "ARGV")
  let args := "awk" :: args
  setShared "ARGC" (.number (Float.ofNat args.length))
  for (arg, i) in args.zipIdx do
    withTable argv fun t => ((), t.insert (keyOf i) (some (i : Int)) (.ofInput (textBytes arg)))
  let environ ← tablePlace (.shared "ENVIRON")
  for (name, v) in (← inShell shell).bindings do
    if v.exported then
      if let some value := v.value then
        withTable environ fun t => ((), t.insert (textBytes name) none (.ofInput (textBytes value)))
  for (name, value) in assigned do setShared name (.ofInput value)
  p.run l

/-! ## The utility -/

/-- What a call of `awk` says: the texts of the program, what separates fields, and the variables
that are set. -/
structure Order where
  files : List String := []
  assigned : List (String × List UInt8) := []
  operands : List String := []

/-- The order that arguments write; an error is a message. -/
def Order.read : List String → Except String Order
  | [] => .ok {}
  | "--" :: rest => .ok { operands := rest }
  | arg :: rest =>
    match arg.toList with
    | '-' :: letter :: value =>
      let valued (use : String → Order → Except String Order) : Except String Order :=
        if !value.isEmpty then do use (String.ofList value) (← Order.read rest)
        else match rest with
          | v :: rest => do use v (← Order.read rest)
          | [] => .error ("option -" ++ String.singleton letter ++ " lacks argument")
      match letter with
      | 'F' => valued fun v o =>
          .ok { o with assigned := ("FS", unescaped v.toList) :: o.assigned }
      | 'v' => valued fun v o =>
          match assignment v with
          | some a => .ok { o with assigned := a :: o.assigned }
          | none => .error ("improper assignment: -v " ++ v)
      | 'f' => valued fun v o => .ok { o with files := v :: o.files }
      | 'W' => valued fun _ o => .ok o
      | _ => .error ("not an option: " ++ arg)
    | _ => .ok { operands := arg :: rest }

end Assay.Awk

namespace Assay.Shell

open Host Awk

/-- The text of a program and the operands. -/
def awkProgram (o : Order) : Eval (Except String (String × List String)) := do
  if o.files.isEmpty then
    match o.operands with
    | text :: rest => return .ok (text, rest)
    | [] => return .error ""
  else
    let mut text := ""
    for path in o.files do
      match ← readWhole path with
      | .ok bytes => text := text ++ Text.decodeLossy bytes ++ "\n"
      | .error fault =>
        return .error ("awk: cannot open \"" ++ path ++ "\" (" ++ fault.words ++ ")")
    return .ok (text, o.operands)

/-- `awk` runs a program on its input. -/
def awk (launcher : Launcher) : Utility := fun args => do
  match Order.read args with
  | .error message =>
    complain ("awk: " ++ message)
    return 2
  | .ok o =>
    match ← awkProgram o with
    | .error message =>
      complain (if message.isEmpty then "Usage: mawk [Options] [Program] [file ...]" else message)
      return if message.isEmpty then 0 else 2
    | .ok (text, operands) =>
      match Program.parse text with
      | .error fault =>
        complain fault.words
        return 2
      | .ok p =>
        let (result, _) ← (p.start launcher o.assigned operands).run {}
        match result with
        | .ok status => return status
        | .error _ => return 2

end Assay.Shell
