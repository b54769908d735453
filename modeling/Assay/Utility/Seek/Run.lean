import Assay.Utility.Files
import Assay.Utility.Seek.Criterion

/-!
# Searching

`find` goes through the files below its operands and tries a criterion at each of them. A directory
is listed when it is come to, so what an action changes in front of that is seen.
-/

namespace Assay.Seek

open Machine Host Shell

/-- A file that was come to: its path, the operand that led to it, and how far it is below that. -/
structure Visited where
  path : String
  operand : String
  depth : Nat
  part : Tree

/-- What a search has come to know and is yet to do. -/
structure Progress where
  status : Nat := 0
  /-- Whether what is in the directory that was come to is left out. -/
  pruned : Bool := false
  ended : Bool := false
  /-- The files for which programs are yet to be run, the last one first. -/
  batches : List (Nat × List String × List String) := []

/-- Going through files. -/
abbrev Going := StateT Progress Eval

/-- Notes that something failed. -/
def noteFailure : Going Unit :=
  modify fun p => { p with status := 1 }

/-! ## Formats -/

/-- The letter of the type of a file, links followed. -/
def finalLetter (path : String) : Eval Char := do
  match ← partOf true path with
  | .ok (_, part) => return if (typeLetter part) = '-' then 'f' else typeLetter part
  | .error .linkLoop => return 'L'
  | .error _ => return 'N'

/-- The path of a file from its operand on. -/
def Visited.below (v : Visited) : String :=
  if v.depth = 0 then ""
  else
    let rest := v.path.toList.drop v.operand.length
    String.ofList (if rest.head? = some '/' then rest.tail else rest)

/-- What a letter of a format stands for. -/
def Visited.detail (v : Visited) (letter : Char) : Eval (Option String) := do
  match letter with
  | 'p' => return some v.path
  | 'f' => return some (lastName v.path)
  | 'h' =>
    let parent := (v.path.toList.reverse.dropWhile (· ≠ '/')).drop 1 |>.reverse
    return some (if v.path.toList.contains '/' then String.ofList parent else ".")
  | 'P' => return some v.below
  | 'H' => return some v.operand
  | 'd' => return some (toString v.depth)
  | 's' => return some (toString (partSize v.part))
  | 'b' => return some (toString (2 * blockCount v.part))
  | 'k' => return some (toString (blockCount v.part))
  | 'n' => return some (toString (linkCount v.part))
  | 'm' => return some (String.ofList (Nat.toDigits 8 v.part.mode))
  | 'M' => return some (String.singleton (typeLetter v.part) ++ modeLetters v.part.mode)
  | 'u' | 'g' => return some "root"
  | 'U' | 'G' => return some "0"
  | 'y' =>
    let letter := typeLetter v.part
    return some (String.singleton (if letter = '-' then 'f' else letter))
  | 'Y' => return some (String.singleton (← finalLetter v.path))
  | 'l' => return match v.part with
    | .link text => some text
    | _ => some ""
  | _ => return none

/-- What a format prints for a file; of at most so many characters. -/
def Visited.formatted (v : Visited) : (fuel : Nat) → List Char → Eval (List UInt8)
  | 0, _ | _, [] => return []
  | fuel + 1, '\\' :: c :: rest => do
    if isOctal c then
      let (b, rest) := octalByte 3 (c :: rest)
      return b :: (← v.formatted fuel rest)
    else if c = 'c' then return []
    else match letterEscape? c with
      | some b => return b :: (← v.formatted fuel rest)
      | none => return 92 :: charBytes c ++ (← v.formatted fuel rest)
  | fuel + 1, '%' :: '%' :: rest => return 37 :: (← v.formatted fuel rest)
  | fuel + 1, '%' :: rest => do
    let flags := rest.takeWhile fun c => "-+ #0".toList.contains c
    let digits := (rest.drop flags.length).takeWhile Char.isDigit
    match rest.drop (flags.length + digits.length) with
    | [] => return textBytes (String.ofList ('%' :: rest))
    | letter :: behind =>
      match ← v.detail letter with
      | none =>
        let front := '%' :: rest.take (flags.length + digits.length + 1)
        return textBytes (String.ofList front) ++ (← v.formatted fuel behind)
      | some text =>
        let width := decimalValue digits
        let text := if flags.contains '-' then padRight width text else padLeft width text
        return textBytes text ++ (← v.formatted fuel behind)
  | fuel + 1, c :: rest => return charBytes c ++ (← v.formatted fuel rest)

/-! ## Tests -/

/-- A text with each pair of braces replaced. -/
def withBracesFilled (value : List Char) : List Char → List Char
  | '\x7b' :: '\x7d' :: rest => value ++ withBracesFilled value rest
  | c :: rest => c :: withBracesFilled value rest
  | [] => []

/-- Runs a program; whether it succeeds. -/
def runProgram (launcher : Launcher) (words : List String) : Eval Bool := do
  match words with
  | [] => return false
  | name :: args =>
    match ← launcher.start none name args with
    | .ok finish => return finish.status = 0
    | .error fault =>
      complain ("find: " ++ quotedName name ++ ": " ++ fault.words)
      return false

/-- Runs something in the directory of a path. -/
def inDirectoryOf {α : Type} (path : String) (body : Eval α) : Eval α := do
  let before := (← shell).directory
  if let .ok (names, .dir ..) ← partOf true (parentName path) then
    changeShell fun s => { s with directory := names }
  finallyDo body (changeShell fun s => { s with directory := before })

/-- Whether a file meets a test, which is carried out if it is an action. -/
def meetsTest (launcher : Launcher) (v : Visited) (t : Test) : Going Bool := do
  let matched (parts : List PatternPart) (folded : Bool) (s : String) : Bool :=
    matchesText parts (if folded then s.toLower else s)
  match t with
  | .constant holds => return holds
  | .name parts folded => return matched parts folded (lastName v.path)
  | .path parts folded => return matched parts folded v.path
  | .target parts folded => return match v.part with
    | .link text => matched parts folded text
    | _ => false
  | .expression a =>
    let octets := v.path.toUTF8
    return (Expression.matchAt a { octets } 0).any (·.stop = octets.size)
  | .type letters =>
    let letter := typeLetter v.part
    return letters.contains (if letter = '-' then 'f' else letter)
  | .finalType letters =>
    let letter ← finalLetter v.path
    return letters.contains (if letter = 'N' then 'l' else letter)
  | .size b unit => return b.admits ((partSize v.part + unit - 1) / unit)
  | .empty => return match v.part with
    | .file _ c => c.size = 0
    | .dir _ es => es.isEmpty
    | _ => false
  | .mode kind bits => return match kind with
    | .exactly => v.part.mode = bits
    | .every => v.part.mode &&& bits = bits
    | .any => bits = 0 || v.part.mode &&& bits ≠ 0
  | .age b => return b.admits 0
  | .links b => return b.admits (linkCount v.part)
  | .owner b => return b.admits 0
  | .permits holds =>
    return match ← partOf true v.path with
      | .ok (_, part) => holds part.mode
      | .error _ => false
  | .sameFile names => return (← partOf false v.path).toOption.any (·.1 = names)
  | .prune =>
    modify fun p => { p with pruned := true }
    return true
  | .quit =>
    modify fun p => { p with ended := true }
    return true
  | .delete =>
    if v.path = "." then return true
    let failed ← changeTree fun root here =>
      if v.part.isDir then removeDir root here v.path else unlink root here v.path
    match failed with
    | none => return true
    | some fault =>
      let _ ← (cannot "find" "cannot delete" v.path fault : Eval Bool)
      noteFailure
      return false
  | .print finish =>
    Shell.print (v.path ++ finish)
    return true
  | .format text =>
    printBytes (← v.formatted text.length text.toList)
    return true
  | .execute words inPlace =>
    let shown := if inPlace then "./" ++ lastName v.path else v.path
    let words := words.map fun w => String.ofList (withBracesFilled shown.toList w.toList)
    if inPlace then inDirectoryOf v.path (runProgram launcher words)
    else runProgram launcher words
  | .collect number words =>
    modify fun p =>
      let others := p.batches.filter (·.1 ≠ number)
      let paths := ((p.batches.lookup number).map Prod.snd).getD []
      { p with batches := (number, words, v.path :: paths) :: others }
    return true

/-- Whether a file meets a criterion. Behind a test that ends the search, nothing is tried. -/
def meets (launcher : Launcher) (v : Visited) : Criterion → Going Bool
  | .test t => do if (← get).ended then return false else meetsTest launcher v t
  | .not c => do return !(← meets launcher v c)
  | .both a b => do if ← meets launcher v a then meets launcher v b else return false
  | .either a b => do if ← meets launcher v a then return true else meets launcher v b
  | .second a b => do
    let _ ← meets launcher v a
    meets launcher v b

/-! ## Going through files -/

/-- Says that a file cannot be got at. -/
def unreachable (path : String) (fault : Fault) : Going Unit := do
  complain ("find: " ++ quotedName path ++ ": " ++ fault.words)
  noteFailure

/-- How far below its operand a file can be. -/
def maxSearchDepth : Nat := 1000

/-- Goes to a file and to those below it. The directories around it are told by the names that lead
to them. -/
def Order.visit (s : Order) (launcher : Launcher) (c : Criterion) (operand : String) :
    (fuel : Nat) → (depth : Nat) → (around : List (List String × String)) → (path : String) →
    Going Unit
  | 0, _, _, _ => return
  | fuel + 1, depth, around, path => do
    if (← get).ended then return
    let found ← match ← partOf s.follows path with
      | .error .missing => if s.follows then partOf false path else pure (.error .missing)
      | found => pure found
    match found with
    | .error fault => unreachable path fault
    | .ok (names, part) =>
      if part.isDir then
        if let some (_, above) := around.find? (·.1 = names) then
          complain ("find: File system loop detected; " ++ quotedName path ++
            " is part of the same file system loop as " ++ quotedName above ++ ".")
          noteFailure
          return
      let v : Visited := { path, operand, depth, part }
      let trial : Going Unit := do
        if s.least ≤ depth then let _ ← meets launcher v c
      modify fun p => { p with pruned := false }
      if !s.upwards then trial
      let enters := part.isDir && s.most.all (depth < ·) && !((← get).pruned && !s.upwards)
      if enters && !(← get).ended then
        let w ← get (m := Eval)
        match Machine.list w.world.root w.shell.directory path with
        | .error fault => unreachable path fault
        | .ok entries =>
          for name in entries do
            s.visit launcher c operand fuel (depth + 1) ((names, path) :: around)
              (childPath path name)
      if s.upwards then trial

/-- Runs the programs that are run once for many files. -/
def runBatches (launcher : Launcher) : Going Unit := do
  for (_, words, paths) in (← get).batches.reverse do
    if !(← (runProgram launcher (words ++ paths.reverse) : Eval Bool)) then noteFailure

/-- Whether a word begins a criterion. -/
def beginsCriterion (word : String) : Bool :=
  (word.startsWith "-" && word ≠ "-") || word = "(" || word = "!"

/-- The options in front of paths, and what follows; whether links are followed everywhere, and
whether those of operands are. -/
def searchOptions : List String → (Bool × Bool) × List String
  | "-L" :: rest => let ((_, _), rest) := searchOptions rest; ((true, true), rest)
  | "-H" :: rest => let ((all, _), rest) := searchOptions rest; ((all, true), rest)
  | "-P" :: rest => searchOptions rest
  | "--" :: rest => ((false, false), rest)
  | rest => ((false, false), rest)

end Assay.Seek

namespace Assay.Shell

open Host Seek

/-- `find` searches for files. -/
def findFiles (launcher : Launcher) : Utility := fun args => do
  let ((follows, followsOperands), args) := searchOptions args
  let paths := args.takeWhile (!beginsCriterion ·)
  let words := args.drop paths.length
  let refuse (message : String) : Eval Nat := do
    complain ("find: " ++ message)
    return 1
  match ← Order.read (words.length + 1) { follows } words with
  | .error message => refuse message
  | .ok s =>
    match criterionOf s.tokens with
    | .error message => refuse message
    | .ok c =>
      let body : Going Unit := do
        for path in if paths.isEmpty then ["."] else paths do
          let linked := followsOperands && !s.follows &&
            (← partOf false path).toOption.any fun (_, t) => t matches .link _
          let path := if linked && !path.endsWith "/" && (← isDirectory path) then path ++ "/"
            else path
          s.visit launcher c path maxSearchDepth 0 [] path
        runBatches launcher
      let (_, progress) ← body.run {}
      return progress.status

end Assay.Shell
