import Assay.Utility.Mode

/-!
# Listing files

`ls` prints names: of files that are named, of what is in directories that are named, and on demand
of what is below them. A long listing tells the type and the mode of each file, whose it is, and how
long. Files have no age, so all are as old.
-/

namespace Assay.Shell

open Machine Host

/-- A file to be listed: the name that is shown, and the file. -/
structure Listed where
  name : String
  part : Tree

/-- The letter of a type. -/
def typeLetter : Tree → Char
  | .file .. => '-'
  | .dir .. => 'd'
  | .link _ => 'l'
  | .device (.stream _) => 'p'
  | .device _ => 'c'

/-- How long a file is. -/
def partSize : Tree → Nat
  | .file _ c => c.size
  | .dir .. => 4096
  | .link target => target.utf8ByteSize
  | .device _ => 0

/-- How many names lead to a file. -/
def linkCount : Tree → Nat
  | .dir _ es => 2 + (es.filter fun e => e.2.isDir).length
  | _ => 1

/-- How many blocks of 1024 bytes a file takes. -/
def blockCount : Tree → Nat
  | .file _ c => (c.size + 4095) / 4096 * 4
  | .dir .. => 4
  | _ => 0

/-- When every file was changed last. -/
def fileDate : String :=
  "Jan  1 00:00"

/-- The mark that shows the type of a file behind its name. -/
def typeMark (o : Options) : Tree → String
  | .dir .. => if o.has 'F' || o.has 'p' then "/" else ""
  | .link _ => if o.has 'F' && !o.has 'l' then "@" else ""
  | .file mode _ => if o.has 'F' && mode &&& 0o111 ≠ 0 then "*" else ""
  | .device _ => ""

/-- The name of a file as it is shown. -/
def listedName (o : Options) (f : Listed) : String :=
  let name := if o.has 'Q' then "\"" ++ f.name ++ "\"" else f.name
  let target := match f.part with
    | .link target => if o.has 'l' then " -> " ++ target else ""
    | _ => ""
  name ++ typeMark o f.part ++ target

/-- The lines of a long listing. -/
def longLines (o : Options) (fs : List Listed) : List String :=
  let widest (f : Listed → Nat) : Nat :=
    (fs.map fun l => (toString (f l)).length).foldl max 0
  let links := widest fun l => linkCount l.part
  let sizes := widest fun l => partSize l.part
  fs.map fun f =>
    let user := if o.has 'g' then [] else ["root"]
    let owner := user ++ if o.has 'o' || o.has 'G' then [] else ["root"]
    " ".intercalate <|
      [String.singleton (typeLetter f.part) ++ modeLetters f.part.mode,
        padLeft links (toString (linkCount f.part))] ++
      (if o.has 'n' then owner.map fun _ => "0" else owner) ++
      [padLeft sizes (toString (partSize f.part)), fileDate, listedName o f]

/-- Files in the order in which they are listed. -/
def inListedOrder (o : Options) (fs : List Listed) : List Listed :=
  if o.has 'U' || o.has 'f' then fs
  else
    let byName := fs.mergeSort fun a b => a.name ≤ b.name
    let ordered := if o.has 'S' then
      byName.mergeSort fun a b => partSize b.part ≤ partSize a.part else byName
    if o.has 'r' then ordered.reverse else ordered

/-- Prints files. -/
def printListed (o : Options) (fs : List Listed) : Eval Unit := do
  let fs := inListedOrder o fs
  if o.has 'l' || o.has 'g' || o.has 'o' || o.has 'n' then printLines (longLines o fs)
  else if o.has 'm' then
    if !fs.isEmpty then printLine (", ".intercalate (fs.map (listedName o)))
  else printLines (fs.map (listedName o))

/-- What is in a directory, as far as it is shown. -/
def shownEntries (o : Options) (t : Tree) : List Listed :=
  match t with
  | .dir _ es =>
    let entries := es.map fun (name, part) => Listed.mk name part
    let all := o.has 'a' || o.has 'f'
    if all then ⟨".", t⟩ :: ⟨"..", t⟩ :: entries
    else if o.has 'A' then entries
    else entries.filter fun e => !e.name.startsWith "." && !(o.has 'B' && e.name.endsWith "~")
  | _ => []

/-- Prints what is in directories, and with `-R` in those below, down to some depth; `first` says
whether something was printed in front. The status is that of a failure if one cannot be read. -/
def printDirectories (o : Options) (titles : Bool) :
    (depth : Nat) → (first : Bool) → List String → Eval (Nat × Bool)
  | 0, first, _ => return (0, first)
  | _ + 1, first, [] => return (0, first)
  | depth + 1, first, path :: rest => do
    let s ← get
    let (status, first) ← match Machine.list s.world.root s.shell.directory path,
        find s.world.root s.shell.directory true path with
      | .ok _, .ok (_, t) => do
        if titles then print ((if first then "" else "\n") ++ path ++ ":\n")
        let entries := shownEntries o t
        if o.has 'l' || o.has 's' then
          let total := (entries.map fun e => blockCount e.part).foldl (· + ·) 0
          printLine ("total " ++ toString total)
        printListed o entries
        if o.has 'R' then
          let below := (inListedOrder o entries).filter fun e =>
            e.part.isDir && e.name ≠ "." && e.name ≠ ".."
          printDirectories o titles depth false (below.map fun e => childPath path e.name)
        else pure (0, false)
      | .error fault, _ | _, .error fault => do
        let _ ← cannot "ls" "cannot open directory" path fault
        pure (2, first)
    let (status', first) ← printDirectories o titles depth first rest
    return (max status status', first)

/-- How deep directories are listed, and how many of them. -/
def maxListing : Nat := 100000

/-- The long names of the options of `ls`. -/
def listingOptions : List (String × Char) :=
  [("all", 'a'), ("almost-all", 'A'), ("directory", 'd'), ("classify", 'F'), ("recursive", 'R'),
    ("reverse", 'r'), ("size", 's'), ("inode", 'i'), ("numeric-uid-gid", 'n'), ("quote-name", 'Q'),
    ("human-readable", 'h'), ("no-group", 'G'), ("color", 'J'), ("group-directories-first", 'X')]

/-- `ls` lists files, and then what is in directories. -/
def ls : Utility :=
  withOptions "ls" "1AaBbCcdFfGghiklmNnopQqRrSstUuvXxZJ" "ITwJ" 2
    (fun o => do
      let mut files : List Listed := []
      let mut dirs : List Listed := []
      let mut status := 0
      for path in if o.operands.isEmpty then ["."] else o.operands do
        let follows := !(o.has 'l' || o.has 'd' || o.has 'F') || path.endsWith "/"
        let found ← match ← partOf follows path with
          | .error .missing => partOf false path
          | found => pure found
        match found with
        | .ok (_, .dir m es) =>
          let listed := Listed.mk path (.dir m es)
          if o.has 'd' then files := files ++ [listed] else dirs := dirs ++ [listed]
        | .ok (_, part) => files := files ++ [⟨path, part⟩]
        | .error fault =>
          let _ ← cannot "ls" "cannot access" path fault
          status := 2
      printListed o files
      let titles := o.operands.length > 1 || o.has 'R'
      let paths := (inListedOrder o dirs).map Listed.name
      let (status', _) ← printDirectories o titles maxListing files.isEmpty paths
      return max status status')
    listingOptions

end Assay.Shell
