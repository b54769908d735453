import Assay.Machine.Naming
import Assay.Utility.Dump
import Assay.Utility.Files

/-!
# More about making files

Utilities that make files with new names, of a length, with a mode, or under a second name, and that
take away single names.
-/

namespace Assay.Shell

open Machine Host

/-! ## New names -/

/-- A template of a name: what is in front of the last run of marks, how many marks there are, and
what is behind. -/
def templateParts (template : String) : List Char × Nat × List Char :=
  let cs := template.toList.reverse
  let behind := cs.takeWhile (· ≠ 'X')
  let marks := (cs.drop behind.length).takeWhile (· = 'X')
  ((cs.drop (behind.length + marks.length)).reverse, marks.length, behind.reverse)

/-- Makes a file or a directory with a new name; so many names are tried. -/
def makeNew (directory dry : Bool) (front : List Char) (marks : Nat) (back : List Char) :
    (attempts : Nat) → Eval (Except Fault String)
  | 0 => return .error .alreadyThere
  | attempts + 1 => do
    let n ← newProcess
    let path := String.ofList (front ++ numbered marks (7919 * n) ++ back)
    if dry then
      match ← partOf false path with
      | .ok _ => makeNew directory dry front marks back attempts
      | .error _ => return .ok path
    else
      match ← changeTree fun root here => do
        if directory then makeDir root here 0o700 path
        else insertAt root here path (.file 0o600 ⟨#[]⟩) with
      | none => return .ok path
      | some .alreadyThere => makeNew directory dry front marks back attempts
      | some fault => return .error fault

/-- `mktemp` makes a file or a directory with a new name. -/
def mktemp : Utility := fun args => do
  let args := args.map fun a => if a = "--tmpdir" then "-D" else a
  withOptions "mktemp" "dutqD" "pS" 1
    (fun o => do
      match o.operands with
      | _ :: _ :: _ =>
        misused "mktemp" "too many templates"
        return 1
      | operands =>
        let refuse (message : String) : Eval Nat := do
          complain ("mktemp: " ++ message)
          return 1
        let temporary := match ← valueOf "TMPDIR" with
          | some "" | none => "/tmp"
          | some path => path
        let template := operands.headD "tmp.XXXXXXXXXX"
        let (front, marks, back) := templateParts template
        let placed := operands.isEmpty || o.has 't' || o.has 'p' || o.has 'D'
        let folder := if o.has 't' then
            (if temporary = "/tmp" then (o.value? 'p').getD temporary else temporary)
          else match o.value? 'p' with
            | some "" | none => temporary
            | some path => path
        let front := if placed then (childPath folder "").toList ++ front else front
        if marks < 3 then refuse ("too few X's in template " ++ quotedName template)
        else if o.has 'S' && !back.isEmpty then
          refuse ("with --suffix, template " ++ quotedName template ++ " must end in X")
        else if back.contains '/' then
          refuse ("invalid suffix " ++ quotedName (String.ofList back) ++
            ", contains directory separator")
        else
          let back := back ++ ((o.value? 'S').getD "").toList
          match ← makeNew (o.has 'd') (o.has 'u') front marks back 1000 with
          | .ok path =>
            printLine path
            return 0
          | .error fault =>
            if o.has 'q' then return 1
            let shown := String.ofList (front ++ List.replicate marks 'X' ++ back)
            refuse ("failed to create " ++ (if o.has 'd' then "directory" else "file") ++
              " via template " ++ quotedName shown ++ ": " ++ fault.words))
    [("directory", 'd'), ("dry-run", 'u'), ("quiet", 'q'), ("suffix", 'S'), ("tmpdir", 'p')] args

/-! ## Lengths -/

/-- The length that a text writes for a file that is so long. -/
def newLength? (text : String) (before : Nat) : Option Nat :=
  match text.toList with
  | sign :: rest =>
    if "+-<>/%".toList.contains sign then
      (octetCount? (String.ofList rest)).bind fun n =>
        match sign with
        | '+' => some (before + n)
        | '-' => some (before - n)
        | '<' => some (min before n)
        | '>' => some (max before n)
        | '/' => if n = 0 then none else some (before / n * n)
        | _ => if n = 0 then none else some ((before + n - 1) / n * n)
    else octetCount? text
  | [] => none

/-- Bytes cut off or filled up with zeros to a length. -/
def withLength (bytes : ByteArray) (length : Nat) : ByteArray :=
  if length ≤ bytes.size then bytes.extract 0 length
  else bytes ++ ⟨Array.replicate (length - bytes.size) 0⟩

/-- `truncate` gives files a length. -/
def truncate : Utility :=
  withOptions "truncate" "co" "sr" 1
    (fun o => do
      let text ← match o.value? 'r' with
        | none => pure (o.value? 's')
        | some path =>
          match ← partOf true path with
          | .ok (_, .file _ c) => pure (some (toString c.size))
          | .ok _ => pure (some "0")
          | .error fault =>
            let _ ← cannot "truncate" "cannot stat" path fault
            throw (Stop.exit 1)
      match text with
      | none =>
        misused "truncate" "you must specify either '--size' or '--reference'"
        return 1
      | some text =>
        if (newLength? text 0).isNone then
          complain ("truncate: Invalid number: " ++ quotedName text)
          return 1
        if o.operands.isEmpty then
          misused "truncate" "missing file operand"
          return 1
        forOperands (fun path => do
          let before ← match ← partOf true path with
            | .ok (_, .file _ c) => pure (some c)
            | _ => pure none
          if before.isNone && o.has 'c' then return true
          match ← openForWriting false path with
          | .error fault =>
            complain ("truncate: cannot open " ++ quotedName path ++ " for writing: " ++
              fault.words)
            return false
          | .ok _ =>
            let bytes := before.getD ⟨#[]⟩
            let length := (newLength? text bytes.size).getD 0
            let _ ← writeFile path (withLength bytes length)
            return true) o.operands)
    [("no-create", 'c'), ("size", 's'), ("reference", 'r'), ("io-blocks", 'o')]

/-! ## Names -/

/-- `link` gives a file a second name. -/
def linkOnce : Utility :=
  withOptions "link" "" "" 1 fun o => do
    match o.operands with
    | [path, target] =>
      let failed (fault : Fault) : Eval Nat := do
        complain ("link: cannot create link " ++ quotedName target ++ " to " ++ quotedName path ++
          ": " ++ fault.words)
        return 1
      match ← partOf false path with
      | .error fault => failed fault
      | .ok (_, .dir ..) => failed .notPermitted
      | .ok (_, part) =>
        match ← changeTree fun root here => insertAt root here target part with
        | none => return 0
        | some fault => failed fault
    | [] =>
      misused "link" "missing operand"
      return 1
    | [path] =>
      misused "link" ("missing operand after " ++ quotedName path)
      return 1
    | _ :: _ :: extra :: _ =>
      misused "link" ("extra operand " ++ quotedName extra)
      return 1

/-- `unlink` takes away the name of a file. -/
def unlinkOnce : Utility :=
  withOptions "unlink" "" "" 1 fun o => do
    match o.operands with
    | [path] =>
      match ← changeTree fun root here => unlink root here path with
      | none => return 0
      | some fault =>
        complain ("unlink: cannot unlink " ++ quotedName path ++ ": " ++ fault.words)
        return 1
    | [] =>
      misused "unlink" "missing operand"
      return 1
    | _ :: extra :: _ =>
      misused "unlink" ("extra operand " ++ quotedName extra)
      return 1

/-! ## Owners -/

/-- The utilities that change whose files are, of which all belong to the same user. -/
def changeOwner (name what : String) : Utility :=
  withOptions name "RcfvhHLP" "" 1
    (fun o => do
      match o.operands with
      | [] =>
        misused name "missing operand"
        return 1
      | [owner] =>
        misused name ("missing operand after " ++ quotedName owner)
        return 1
      | owner :: paths =>
        let names := (Text.splitAt ':' owner.toList).map String.ofList
        let isKnown (n : String) : Bool := n = "" || n = "root" || (naturalNumber? n).isSome
        match names.find? (!isKnown ·) with
        | some n =>
          complain (name ++ ": invalid " ++ what ++ ": " ++ quotedName (if what = "user" then owner
            else n))
          return 1
        | none =>
          forOperands (fun path => do
            match ← partOf true path with
            | .error fault => cannot name "cannot access" path fault
            | .ok _ =>
              if names.all fun n => n = "" || n = "root" || n = "0" then return true
              else
                let of := if what = "user" then "ownership" else "group"
                complain (name ++ ": changing " ++ of ++ " of " ++ quotedName path ++ ": " ++
                  Fault.notPermitted.words)
                return false) paths)
    [("recursive", 'R'), ("changes", 'c'), ("silent", 'f'), ("quiet", 'f'), ("verbose", 'v'),
      ("no-dereference", 'h')]

/-! ## Putting into place -/

/-- Copies an operand of `install` to a place, with a mode. -/
def installTo (o : Options) (mode : Nat) (path target : String) : Eval Bool := do
  match ← partOf true path with
  | .error fault => cannot "install" "cannot stat" path fault
  | .ok (_, .dir ..) =>
    complain ("install: omitting directory " ++ quotedName path)
    return false
  | .ok (_, part) =>
    let bytes := match part with
      | .file _ c => c
      | _ => ⟨#[]⟩
    if o.has 'D' then
      let _ ← makePath 0o755 ((Path.ancestors ⟨target⟩).drop 1)
    if (← partOf false target).toOption.isSome then
      let _ ← changeTree fun root here => unlink root here target
    let done ← reportChange "install" "cannot create regular file" target
      (changeTree fun root here => insertAt root here target (.file mode bytes))
    if done then tellIf o 'v' (quotedName path ++ " -> " ++ quotedName target)
    return done

/-- `install` copies files and gives them a mode, or makes directories. -/
def install : Utility :=
  withOptions "install" "bcCdDpsvT" "gmotS" 1
    (fun o => do
      let change? := modeChange? 0 ((o.value? 'm').getD "755")
      match change? with
      | none =>
        complain ("install: invalid mode " ++ quotedName ((o.value? 'm').getD ""))
        return 1
      | some change =>
        if o.has 'd' then
          withOperands "install" "missing file operand" o do
            forOperands (fun path => do
              match ← makePath 0o755 (Path.ancestors ⟨path⟩) with
              | .error fault => cannot "install" "cannot create directory" path fault
              | .ok made =>
                for p in made do
                  tellIf o 'v' ("install: creating directory " ++ quotedName p)
                let _ ← changeTree fun root here => do
                  let (names, t) ← find root here true path
                  return root.replace names (withMode (fun _ _ => change true 0) t)
                return true) o.operands
        else toTarget "install" o (installTo o (change false 0)))
    [("directory", 'd'), ("mode", 'm'), ("verbose", 'v'), ("target-directory", 't'),
      ("no-target-directory", 'T'), ("owner", 'o'), ("group", 'g')]

end Assay.Shell
