import Assay.Utility.Mode
import Assay.Utility.Name

/-!
# Making, copying and removing files

The utilities that make, copy, move and remove files. Each operand is dealt with by itself: one that
fails is reported, and the others are dealt with all the same.
-/

namespace Assay.Shell

open Machine Host

/-- Says what was done, if that is asked for. -/
def tellIf (o : Options) (letter : Char) (line : String) : Eval Unit := do
  if o.has letter then printLine line

/-! ## Making and removing -/

/-- `touch` makes the files that are missing. -/
def touch : Utility :=
  withOptions "touch" "acfmh" "drt" 1
    (fun o =>
      withOperands "touch" "missing file operand" o do
        forOperands (fun path => do
          let s ← get
          match resolve s.world.root s.shell.directory true path with
          | .ok (.found ..) => return true
          | _ =>
            if o.has 'c' then return true
            else
              match ← openForWriting false path with
              | .ok _ => return true
              | .error .isDirectory => cannot "touch" "cannot touch" path .missing
              | .error fault => cannot "touch" "cannot touch" path fault) o.operands)
    [("no-create", 'c'), ("date", 'd'), ("reference", 'r')]

/-- Makes a directory and those above it that are missing; the directories that were made. -/
def makePath (mode : Nat) : List Path → Eval (Except Fault (List String))
  | [] => return .ok []
  | path :: parents => do
    if path.text.isEmpty then return .ok []
    match ← changeTree fun root here => makeDir root here mode path.text with
    | none => return .ok [path.text]
    | some .missing => do
      match ← makePath mode parents with
      | .error fault => return .error fault
      | .ok made =>
        match ← changeTree fun root here => makeDir root here mode path.text with
        | none => return .ok (made ++ [path.text])
        | some fault => return .error fault
    | some fault => return if ← isDirectory path.text then .ok [] else .error fault

/-- `mkdir` makes directories, with `-p` also those above. -/
def mkdir : Utility :=
  withOptions "mkdir" "pv" "m" 1
    (fun o =>
      withOperands "mkdir" "missing operand" o do
        let change? : Option (Bool → Nat → Nat) := match o.value? 'm' with
          | none => some fun _ m => m
          | some m => modeChange? 0 m
        match change? with
        | none =>
          complain ("mkdir: invalid mode " ++ quotedName ((o.value? 'm').getD ""))
          return 1
        | some change =>
          forOperands (fun path => do
            let mode ← if o.has 'm' then pure (change true 0o777) else maskedMode 0o777
            let told (p : String) : Eval Unit :=
              tellIf o 'v' ("mkdir: created directory " ++ quotedName p)
            if o.has 'p' then
              match ← makePath mode (Path.ancestors ⟨path⟩) with
              | .ok made =>
                for p in made do told p
                return true
              | .error fault => cannot "mkdir" "cannot create directory" path fault
            else
              let done ← reportChange "mkdir" "cannot create directory" path
                (changeTree fun root here => makeDir root here mode path)
              if done then told path
              return done) o.operands)
    [("parents", 'p'), ("mode", 'm'), ("verbose", 'v')]

/-- Removes an empty directory. -/
def removeDir (root : Tree) (here : List String) (path : String) : Except Fault Tree := do
  match ← find root here false path with
  | (p, .dir _ []) => if mayChange root p.dropLast then return root.erase p else .error .denied
  | (_, .dir ..) => .error .notEmpty
  | _ => .error .notDirectory

/-- `rmdir` removes empty directories, with `-p` also those above. -/
def rmdir : Utility :=
  withOptions "rmdir" "pv" "" 1
    (fun o =>
      withOperands "rmdir" "missing operand" o do
        forOperands (fun path => do
          let paths := if o.has 'p' then
            ((Path.ancestors ⟨path⟩).map Path.text).filter fun p => p ≠ "" && p ≠ "/" else [path]
          let mut done := true
          for p in paths do
            if done then
              tellIf o 'v' ("rmdir: removing directory, " ++ quotedName p)
              let what := if p = path then "failed to remove" else "failed to remove directory"
              done ← reportChange "rmdir" what p
                (changeTree fun root here => removeDir root here p)
          return done) o.operands)
    [("parents", 'p'), ("verbose", 'v')]

/-- The lines that tell about the removal of a part of the tree. -/
def removalLines (path : String) : Tree → List String
  | .dir _ es => removalOfEntries path es ++ ["removed directory " ++ quotedName path]
  | _ => ["removed " ++ quotedName path]
where
  /-- The lines that tell about the removal of entries. -/
  removalOfEntries (path : String) : List (String × Tree) → List String
    | [] => []
    | (name, t) :: rest =>
      removalLines (childPath path name) t ++ removalOfEntries path rest

/-- Removes an operand of `rm`. -/
def removeOperand (o : Options) (path : String) : Eval Bool := do
  let recursive := o.has 'r' || o.has 'R'
  let last := lastName path
  if recursive && (last = "." || last = "..") then
    complain ("rm: refusing to remove '.' or '..' directory: skipping " ++ quotedName path)
    return false
  else if recursive && last = "/" then
    complain "rm: it is dangerous to operate recursively on '/'"
    complain "rm: use --no-preserve-root to override this failsafe"
    return false
  else
    match ← partOf false path with
    | .error fault =>
      if o.has 'f' && (fault = .missing || fault = .notDirectory) then return true
      else cannot "rm" "cannot remove" path fault
    | .ok (_, part) =>
      let lines := removalLines path part
      let done ← match part with
        | .dir .. =>
          if recursive then
            reportChange "rm" "cannot remove" path
              (changePartly fun root here => removeAll root here path)
          else if o.has 'd' then
            reportChange "rm" "cannot remove" path
              (changeTree fun root here => removeDir root here path)
          else cannot "rm" "cannot remove" path .isDirectory
        | _ =>
          reportChange "rm" "cannot remove" path
            (changeTree fun root here => unlink root here path)
      if done && o.has 'v' then printLines lines
      return done

/-- `rm` removes files, with `-r` also directories; with `-f` it does not mind if they are
missing. -/
def rm : Utility :=
  withOptions "rm" "dfiIrRv" "" 1
    (fun o => do
      if o.operands.isEmpty && o.has 'f' then return 0
      withOperands "rm" "missing operand" o do
        forOperands (removeOperand o) o.operands)
    [("recursive", 'r'), ("force", 'f'), ("verbose", 'v'), ("dir", 'd')]

/-! ## Places -/

/-- The place of an operand at a target: in the target if that is a directory. -/
def placeAt (path target : String) : Eval String := do
  if ← isDirectory target then return childPath target (lastName path) else return target

/-- Does something with operands and a target: the directory that is named by an option or by the
last operand, or the last operand itself if there is one other. -/
def toTarget (utility : String) (o : Options) (body : String → String → Eval Bool) : Eval Nat := do
  match o.value? 't', o.operands.reverse with
  | some directory, sources =>
    if ← isDirectory directory then
      forOperands (fun path => body path (childPath directory (lastName path))) sources.reverse
    else
      complain (utility ++ ": target directory " ++ quotedName directory ++ ": " ++
        match ← partOf true directory with
        | .error fault => fault.words
        | .ok _ => Fault.notDirectory.words)
      return 1
  | none, [] =>
    misused utility "missing file operand"
    return 1
  | none, [path] =>
    misused utility ("missing destination file operand after " ++ quotedName path)
    return 1
  | none, target :: sources =>
    if sources.length > 1 && !(← isDirectory target) then
      complain (utility ++ ": target " ++ quotedName target ++ ": " ++
        match ← partOf true target with
        | .error fault => fault.words
        | .ok _ => Fault.notDirectory.words)
      return 1
    else
      forOperands (fun path => do
        body path (← if o.has 'T' then pure target else placeAt path target)) sources.reverse

/-! ## Links -/

/-- Puts a part into the tree at a place that is free. -/
def insertAt (root : Tree) (here : List String) (target : String) (part : Tree) :
    Except Fault Tree := do
  match ← resolve root here false target with
  | .found .. => .error .alreadyThere
  | .hole dir name _ =>
    if mayChange root dir then return root.insert dir name part else .error .denied

/-- Makes a link at a place. -/
def linkAt (o : Options) (path target : String) : Eval Bool := do
  if o.has 'f' then
    let _ ← changeTree fun root here => unlink root here target
  let what := if o.has 's' then "failed to create symbolic link" else "failed to create hard link"
  let part : Except Fault Tree ← if o.has 's' then pure (.ok (.link path))
    else do
      match ← partOf false path with
      | .ok (_, .dir ..) =>
        complain ("ln: " ++ path ++ ": hard link not allowed for directory")
        return false
      | .ok (_, part) => pure (.ok part)
      | .error fault =>
        let _ ← cannot "ln" "failed to access" path fault
        return false
  let done ← reportChange "ln" what target (changeTree fun root here => do
    insertAt root here target (← part))
  if done then
    let arrow := if o.has 's' then " -> " else " => "
    tellIf o 'v' (quotedName target ++ arrow ++ quotedName path)
  return done

/-- `ln` makes links: with `-s` to a path, otherwise a second copy of a file. -/
def ln : Utility :=
  withOptions "ln" "sfnTvrLP" "t" 1
    (fun o =>
      withOperands "ln" "missing file operand" o do
        match o.operands with
        | [path] =>
          let target := childPath "." (lastName path)
          return if ← linkAt o path target then 0 else 1
        | _ =>
          let o := if o.has 'n' then
            { o with letters := ('T', "") :: o.letters } else o
          toTarget "ln" o (linkAt o))
    [("symbolic", 's'), ("force", 'f'), ("no-dereference", 'n'), ("no-target-directory", 'T'),
      ("verbose", 'v')]

/-! ## Copying -/

/-- The mode of a copy that is made. -/
def copyMode (o : Options) (mode : Nat) : Eval Nat :=
  if o.has 'p' || o.has 'a' then return mode else maskedMode mode

/-- Copies bytes to a file. -/
def copyFile (o : Options) (mode : Nat) (bytes : ByteArray) (path target : String) :
    Eval Bool := do
  let there ← partOf true target
  if o.has 'n' && there.toOption.isSome then return true
  match there with
  | .ok (_, .dir ..) =>
    complain ("cp: cannot overwrite directory " ++ quotedName target ++ " with non-directory")
    return false
  | _ =>
    if o.has 'f' then
      if let .error .denied ← openForWriting false target then
        let _ ← changeTree fun root here => unlink root here target
    let new := (← partOf true target).toOption.isNone
    let written ← match ← openForWriting true target with
      | .ok opened => writeToTarget opened bytes
      | .error .isDirectory => pure (some .notDirectory)
      | .error fault => pure (some fault)
    match written with
    | some fault => cannot "cp" "cannot create regular file" target fault
    | none =>
      if new then
        let mode ← copyMode o mode
        let _ ← changeTree fun root here => do
          let (p, t) ← find root here true target
          return root.replace p (withMode (fun _ _ => mode) t)
      tellIf o 'v' (quotedName path ++ " -> " ++ quotedName target)
      return true

/-- Makes a directory for a copy, unless one is there. -/
def copyDirectory (o : Options) (mode : Nat) (path target : String) : Eval Bool := do
  match ← partOf true target with
  | .ok (_, .dir ..) => return true
  | .ok _ =>
    complain ("cp: cannot overwrite non-directory " ++ quotedName target ++ " with directory " ++
      quotedName path)
    return false
  | .error _ =>
    let mode ← copyMode o mode
    let done ← reportChange "cp" "cannot create directory" target
      (changeTree fun root here => makeDir root here mode target)
    if done then tellIf o 'v' (quotedName path ++ " -> " ++ quotedName target)
    return done

mutual

/-- Copies a part of the tree to a place. -/
def copyPart (o : Options) (path target : String) : Tree → Eval Bool
  | .file mode bytes => do
    if mayRead mode then copyFile o mode bytes path target
    else
      complain ("cp: cannot open " ++ quotedName path ++ " for reading: " ++ Fault.denied.words)
      return false
  | .dir mode es => do
    if !(← copyDirectory o mode path target) then return false
    if !mayRead mode then cannot "cp" "cannot access" path .denied
    else copyEntries o path target es
  | .link text => do
    reportChange "cp" "cannot create symbolic link" target
      (changeTree fun root here => insertAt root here target (.link text))
  | .device _ => copyFile o 0o644 ⟨#[]⟩ path target

/-- Copies entries into a directory. -/
def copyEntries (o : Options) (path target : String) : List (String × Tree) → Eval Bool
  | [] => return true
  | (name, t) :: rest => do
    let done ← copyPart o (childPath path name) (childPath target name) t
    let others ← copyEntries o path target rest
    return done && others

end

/-- Copies an operand of `cp` to a place. -/
def copyTo (o : Options) (path target : String) : Eval Bool := do
  let recursive := o.has 'r' || o.has 'R' || o.has 'a'
  let follows := !(recursive || o.has 'd' || o.has 'P') || o.has 'L'
  match ← partOf follows path with
  | .error fault => cannot "cp" "cannot stat" path fault
  | .ok (source, part) =>
    if part.isDir && !recursive then
      complain ("cp: -r not specified; omitting directory " ++ quotedName path)
      return false
    else if (← partOf true target).toOption.any (·.1 = source) then
      complain ("cp: " ++ quotedName path ++ " and " ++ quotedName target ++ " are the same file")
      return false
    else
      let s ← get
      let inside := match resolve s.world.root s.shell.directory false target with
        | .ok (.hole dir _ _) => source.isPrefixOf dir
        | _ => false
      if part.isDir && inside then
        complain ("cp: cannot copy a directory, " ++ quotedName path ++ ", into itself, " ++
          quotedName target)
        return false
      else copyPart o path target part

/-- The long names of the options of `cp` and `mv`. -/
def copyOptions : List (String × Char) :=
  [("recursive", 'r'), ("archive", 'a'), ("force", 'f'), ("no-clobber", 'n'), ("verbose", 'v'),
    ("target-directory", 't'), ("no-target-directory", 'T'), ("dereference", 'L'),
    ("no-dereference", 'P'), ("interactive", 'i'), ("update", 'u')]

/-- `cp` copies files, with `-r` also directories. -/
def cp : Utility :=
  withOptions "cp" "rRapfvnuidPLTxl" "tS" 1 (fun o => toTarget "cp" o (copyTo o)) copyOptions

/-! ## Moving -/

/-- Moves a part of the tree to a place; a fault is that of the move. -/
def movePart (source : List String) (part : Tree) (target : String) (root : Tree)
    (here : List String) : Except Fault Tree := do
  if !mayChange root source.dropLast then throw .denied
  let root' := root.erase source
  match ← resolve root' here false target with
  | .found p (.dir _ es) =>
    if !part.isDir then throw .isDirectory
    if !es.isEmpty then throw .notEmpty
    return root'.replace p part
  | .found p _ =>
    if part.isDir then throw .notDirectory
    if !mayChange root' p.dropLast then throw .denied
    return root'.replace p part
  | .hole dir name _ =>
    if mayChange root' dir then return root'.insert dir name part else throw .denied

/-- Moves an operand of `mv` to a place. -/
def moveTo (o : Options) (path target : String) : Eval Bool := do
  match ← partOf false path with
  | .error fault => cannot "mv" "cannot stat" path fault
  | .ok (source, part) =>
    let there := (← partOf false target).toOption
    if there.any (·.1 = source) then
      complain ("mv: " ++ quotedName path ++ " and " ++ quotedName target ++ " are the same file")
      return false
    else if o.has 'n' && there.isSome then return true
    else
      let s ← get
      let inside := match resolve s.world.root s.shell.directory false target with
        | .ok (.hole dir _ _) => source.isPrefixOf dir
        | .ok (.found p _) => source.isPrefixOf p
        | _ => false
      if part.isDir && inside then
        complain ("mv: cannot move " ++ quotedName path ++ " to a subdirectory of itself, " ++
          quotedName target)
        return false
      else
        match there, part with
        | some (_, .dir ..), .dir .. | none, _ => pure ()
        | some (_, .dir ..), _ =>
          complain ("mv: cannot overwrite directory " ++ quotedName target ++
            " with non-directory")
          return false
        | some _, .dir .. =>
          complain ("mv: cannot overwrite non-directory " ++ quotedName target ++
            " with directory " ++ quotedName path)
          return false
        | _, _ => pure ()
        match ← changeTree (movePart source part target) with
        | none =>
          tellIf o 'v' ("renamed " ++ quotedName path ++ " -> " ++ quotedName target)
          return true
        | some .notEmpty =>
          complain ("mv: cannot overwrite " ++ quotedName target ++ ": " ++ Fault.notEmpty.words)
          return false
        | some fault =>
          complain ("mv: cannot move " ++ quotedName path ++ " to " ++ quotedName target ++ ": " ++
            fault.words)
          return false

/-- `mv` moves files and directories. -/
def mv : Utility :=
  withOptions "mv" "fvniuT" "tS" 1 (fun o => toTarget "mv" o (moveTo o)) copyOptions

end Assay.Shell
