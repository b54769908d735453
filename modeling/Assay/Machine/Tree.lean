import Assay.Case.Basic
import Assay.Host.Fault

/-!
# Trees of files

A file, a directory with its entries, a link or a device, each with the bits that say what it
permits. All of them belong to the user on whose behalf the machine works, and this user has no more
rights than the bits of an owner give: listing a directory needs its read bit, getting at what is in
it needs its execute bit, and changing what is in it needs its write bit too.

Two walks over trees are defined here. Setting permissions visits a directory before its entries
when it grants and after them when it revokes, so that it does not lock itself out. Removing a
directory removes its entries first, follows no link and stops at the first fault; what it removed
until then is gone.
-/

namespace Assay.Machine

open Host

/-- What a device gives and takes. -/
inductive Device where
  /-- Nothing to read; whatever is written is dropped. -/
  | null
  /-- Zeros without end. -/
  | zero
  /-- Zeros without end, and no space for anything that is written. -/
  | full
  /-- Bytes without end that cannot be foretold. -/
  | random
  /-- The terminal, which no process has. -/
  | terminal
  /-- Whatever the stream of this number leads to. -/
  | stream (n : Nat)
deriving DecidableEq

/-- A file, a directory, a link or a device. -/
inductive Tree where
  | file (mode : Nat) (contents : ByteArray)
  | dir (mode : Nat) (entries : List (String × Tree))
  | link (target : String)
  | device (d : Device)

/-- The entries of a directory. -/
abbrev Entries := List (String × Tree)

/-! ## Permission bits -/

/-- Whether the owner may read. -/
def mayRead (mode : Nat) : Bool :=
  mode.testBit 8

/-- Whether the owner may write. -/
def mayWrite (mode : Nat) : Bool :=
  mode.testBit 7

/-- Whether the owner may execute a file or get at what is in a directory. -/
def maySearch (mode : Nat) : Bool :=
  mode.testBit 6

/-- The bits for writing and executing, of owner, group and others. -/
def writeExecute : Nat := 0o333

/-- The bits that a mode becomes. Reading stays as it is. -/
def Permission.apply (p : Permission) (mode : Nat) : Nat :=
  match p with
  | .readOnly => mode ^^^ (mode &&& writeExecute)
  | .allAccess => mode ||| writeExecute

namespace Tree

/-- Whether it is a directory. -/
def isDir : Tree → Bool
  | .dir .. => true
  | _ => false

/-- The bits of what is no link. -/
def mode : Tree → Nat
  | .file m _ => m
  | .dir m _ => m
  | .link _ => 0o777
  | .device _ => 0o666

/-! ## Setting permissions -/

mutual

/-- Sets permissions throughout a tree. Links are left alone. At a fault the walk stops, and what it
did until then stays done. -/
def setPermission (p : Permission) : Tree → Tree × Option Fault
  | .file m c => (.file (Permission.apply p m) c, none)
  | .link target => (.link target, none)
  | .device d => (.device d, none)
  | .dir m es =>
    let before := match p with
      | .allAccess => Permission.apply p m
      | .readOnly => m
    if !mayRead before then (.dir before es, some .denied)
    else
      match setEntries p (maySearch before) es with
      | (es, some fault) => (.dir before es, some fault)
      | (es, none) => (.dir (Permission.apply p m) es, none)

/-- Sets permissions throughout the entries of a directory, which can be got at or not. -/
def setEntries (p : Permission) (reachable : Bool) :
    List (String × Tree) → List (String × Tree) × Option Fault
  | [] => ([], none)
  | (name, t) :: rest =>
    if !reachable then ((name, t) :: rest, some .denied)
    else
      match setPermission p t with
      | (t, some fault) => ((name, t) :: rest, some fault)
      | (t, none) =>
        let (rest, fault) := setEntries p reachable rest
        ((name, t) :: rest, fault)

end

/-! ## Removing -/

mutual

/-- Removes what is in a tree: the tree that is left, and the fault that stopped the removal. -/
def clear : Tree → Tree × Option Fault
  | .dir m es =>
    if !mayRead m then (.dir m es, some .denied)
    else
      let (es, fault) := clearEntries m es
      (.dir m es, fault)
  | t => (t, none)

/-- Removes the entries of a directory of a mode: those that are left, and the fault that stopped
the removal. -/
def clearEntries (mode : Nat) :
    List (String × Tree) → List (String × Tree) × Option Fault
  | [] => ([], none)
  | (name, t) :: rest =>
    match (if t.isDir && !maySearch mode then (t, some .denied) else clear t) with
    | (t, some fault) => ((name, t) :: rest, some fault)
    | (t, none) =>
      if mayWrite mode && maySearch mode then clearEntries mode rest
      else ((name, t) :: rest, some .denied)

end

/-! ## Getting at parts -/

/-- The part of a tree that names lead to. -/
def get? : Tree → List String → Option Tree
  | t, [] => some t
  | .dir _ es, name :: path =>
    match es.lookup name with
    | some t => t.get? path
    | none => none
  | _, _ :: _ => none

/-- The tree with the entries of the directory that names lead to changed. -/
def modifyEntries (f : Entries → Entries) : (path : List String) → Tree → Tree
  | [], .dir m es => .dir m (f es)
  | name :: path, .dir m es =>
    .dir m (es.map fun e => if e.1 = name then (e.1, e.2.modifyEntries f path) else e)
  | _, t => t

/-- The tree with another part where names lead to. -/
def replace (t : Tree) (path : List String) (part : Tree) : Tree :=
  match path.getLast? with
  | none => part
  | some name =>
    t.modifyEntries
      (fun es => es.map fun e => if e.1 = name then (e.1, part) else e) path.dropLast

/-- The tree with an entry put into the directory that names lead to. -/
def insert (t : Tree) (path : List String) (name : String) (part : Tree) : Tree :=
  t.modifyEntries (fun es => es ++ [(name, part)]) path

/-- The tree without the part where names lead to. -/
def erase (t : Tree) (path : List String) : Tree :=
  t.modifyEntries (fun es => es.filter fun e => some e.1 ≠ path.getLast?) path.dropLast

end Tree

end Assay.Machine
