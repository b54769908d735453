import Assay.Toml.Scalar

/-!
# Documents of TOML

A document is a table. Its lines put values under keys, in the table whose header stands above them.
A table may be opened once; tables on the way to it come about by themselves, and tables of a dotted
key belong to the keys that write them. The order of the keys is that of the text.
-/

namespace Assay.Toml

/-- How a table came about. -/
inductive Origin where
  /-- By its own header. -/
  | header
  /-- By the header of a table inside of it. -/
  | implied
  /-- By a dotted key. -/
  | dotted
deriving DecidableEq

/-- What a key stands for. -/
inductive Node where
  | value (d : Datum)
  | table (origin : Origin) (entries : List (String × Node))
  /-- The tables of a repeated header. -/
  | tables (items : List (List (String × Node)))

/-- The keys of a table with what they stand for. -/
abbrev Entries := List (String × Node)

namespace Entries

/-- The entries with another node under a key that is there. -/
def replace (es : Entries) (key : String) (n : Node) : Entries :=
  es.map fun e => if e.1 = key then (key, n) else e

/-- Changes the table on a path of headers; tables that are missing on the way come about. -/
def modifyAt (f : Entries → Option Entries) : (path : List String) → Entries → Option Entries
  | [], es => f es
  | k :: path, es =>
    match es.lookup k with
    | none => (modifyAt f path []).map fun t => es ++ [(k, .table .implied t)]
    | some (.value _) => none
    | some (.table origin t) => (modifyAt f path t).map fun t => es.replace k (.table origin t)
    | some (.tables items) =>
      (modifyAt f path (items.getLast?.getD [])).map fun t =>
        es.replace k (.tables (items.dropLast ++ [t]))

/-- Puts a value under a dotted key, into a table that came about as `origin` says. -/
def put (d : Datum) : (path : List String) → (last : String) → Origin → Entries → Option Entries
  | [], last, origin, es =>
    if origin ≠ .dotted || (es.lookup last).isSome then none
    else some (es ++ [(last, .value d)])
  | k :: path, last, _, es =>
    match es.lookup k with
    | none => (put d path last .dotted []).map fun t => es ++ [(k, .table .dotted t)]
    | some (.value _) | some (.table .header _) => none
    | some (.table origin t) =>
      (put d path last origin t).map fun t => es.replace k (.table origin t)
    | some (.tables items) =>
      (put d path last .header (items.getLast?.getD [])).map fun t =>
        es.replace k (.tables (items.dropLast ++ [t]))

/-- Puts a value under a key; none if there is something already. -/
def insert (es : Entries) (key : List String) (d : Datum) : Option Entries :=
  match key with
  | [] => none
  | [last] => if (es.lookup last).isSome then none else some (es ++ [(last, .value d)])
  | k :: rest => put d (k :: rest.dropLast) (rest.getLastD "") .header es

/-- Opens the table of a header. -/
def openTable (es : Entries) (path : List String) : Option Entries :=
  let last := path.getLastD ""
  modifyAt (fun t => match t.lookup last with
    | none => some (t ++ [(last, .table .header [])])
    | some (.table .implied inner) =>
      some (t.filter (·.1 ≠ last) ++ [(last, .table .header inner)])
    | some _ => none) path.dropLast es

/-- Opens one more table of a repeated header. -/
def openItem (es : Entries) (path : List String) : Option Entries :=
  let last := path.getLastD ""
  modifyAt (fun t => match t.lookup last with
    | none => some (t ++ [(last, .tables [[]])])
    | some (.tables items) => some (t.replace last (.tables (items ++ [[]])))
    | some _ => none) path.dropLast es

end Entries

mutual

/-- A node as data. -/
def Node.toDatum : Node → Datum
  | .value d => d
  | .table _ es => .map (entriesToData es) none
  | .tables items => .seq (itemsToData items) none

/-- The entries of a table as data. -/
def entriesToData : List (String × Node) → List (Datum × Datum)
  | [] => []
  | (k, n) :: rest => (.scalar (.exact (.str k)), n.toDatum) :: entriesToData rest

/-- The tables of a repeated header as data. -/
def itemsToData : List (List (String × Node)) → List Datum
  | [] => []
  | es :: rest => .map (entriesToData es) none :: itemsToData rest

end

/-! ## Keys and values -/

/-- Whether a character may stand in a key without quotes. -/
def isKeyChar (c : Char) : Bool :=
  c.isAlphanum || c == '-' || c == '_'

/-- Reads one part of a key. -/
def keyPart (s : List Char) : Option (String × List Char) :=
  match s with
  | c :: r =>
    if c = '"' || c = '\'' then line c (s.length + 1) [] r
    else
      let name := s.takeWhile isKeyChar
      if name.isEmpty then none else some (String.ofList name, s.dropWhile isKeyChar)
  | [] => none

/-- How deep brackets may be nested, and how many parts a key may have. -/
def depthLimit : Nat :=
  79

/-- Reads parts with points between them, so many at most. -/
def keyParts : (most : Nat) → List Char → Option (List String × List Char)
  | 0, _ => none
  | most + 1, s => do
    let (k, s) ← keyPart (skipBlanks s)
    match skipBlanks s with
    | '.' :: s =>
      let (ks, s) ← keyParts most s
      return (k :: ks, s)
    | s => return ([k], s)

/-- Reads a key: parts with points between them. -/
def key (s : List Char) : Option (List String × List Char) :=
  keyParts depthLimit s

/-- The text behind a comment, which holds no control character. -/
def skipComment (s : List Char) : List Char :=
  match s with
  | '#' :: r => r.dropWhile isText
  | _ => s

/-- The text behind blanks, comments and line breaks. -/
def skipLines : (fuel : Nat) → List Char → List Char
  | 0, s => s
  | fuel + 1, s =>
    let s := skipComment (skipBlanks s)
    match lineBreak? s with
    | some s => skipLines fuel s
    | none => s

mutual

/-- Reads a value, with so many levels of brackets left. -/
def value (levels : Nat) : (fuel : Nat) → List Char → Option (Datum × List Char)
  | 0, _ => none
  | fuel + 1, s =>
    let scalar : Atom × List Char → Datum × List Char := fun (a, r) => (.scalar (.exact a), r)
    match s with
    | '[' :: r =>
      if levels = 0 then none
      else (items (levels - 1) fuel r).map fun (ds, r) => (.seq ds none, r)
    | '\x7b' :: r =>
      if levels = 0 then none
      else match skipBlanks r with
        | '\x7d' :: r => some (.map [] none, r)
        | r =>
          (pairs (levels - 1) [] fuel r).map fun (es, r) => (.map (entriesToData es) none, r)
    | 't' :: 'r' :: 'u' :: 'e' :: r => some (.scalar (.exact (.bool true)), r)
    | 'f' :: 'a' :: 'l' :: 's' :: 'e' :: r => some (.scalar (.exact (.bool false)), r)
    | c :: _ =>
      if c = '"' || c = '\'' then (string s).map fun (t, r) => (.scalar (.exact (.str t)), r)
      else moment s <|> (float? s).map scalar <|> (int? s).map scalar
    | [] => none

/-- Reads the items of an array up to its closing bracket. -/
def items (levels : Nat) : (fuel : Nat) → List Char → Option (List Datum × List Char)
  | 0, _ => none
  | fuel + 1, s =>
    match skipLines (s.length + 1) s with
    | ']' :: r => some ([], r)
    | s => do
      let (d, s) ← value levels fuel s
      match skipLines (s.length + 1) s with
      | ',' :: r =>
        let (ds, r) ← items levels fuel r
        return (d :: ds, r)
      | ']' :: r => return ([d], r)
      | _ => none

/-- Reads the keys and values of a table on one line up to its closing bracket. -/
def pairs (levels : Nat) (es : Entries) : (fuel : Nat) → List Char → Option (Entries × List Char)
  | 0, _ => none
  | fuel + 1, s => do
    let (k, s) ← key s
    match skipBlanks s with
    | '=' :: s =>
      let (d, s) ← value levels fuel (skipBlanks s)
      let es ← es.insert k d
      match skipBlanks s with
      | ',' :: s => pairs levels es fuel s
      | '\x7d' :: s => return (es, s)
      | _ => none
    | _ => none

end

/-! ## Lines -/

/-- A document read up to a line: its root, and the path of the table whose header came last. -/
structure Reading where
  root : Entries := []
  path : List String := []

/-- The text of the next line, from behind the text of this one. -/
def endLine (s : List Char) : Option (List Char) :=
  match skipComment (skipBlanks s) with
  | [] => some []
  | s => lineBreak? s

/-- Reads a header, from behind its opening brackets on. -/
def header (close : List Char) (openAt : Entries → List String → Option Entries) (r : Reading)
    (s : List Char) : Option (Reading × List Char) := do
  let (path, s) ← key s
  if s.take close.length ≠ close then none
  else
    let root ← openAt r.root path
    let s ← endLine (s.drop close.length)
    return ({ root, path }, s)

/-- Reads a key and its value. -/
def assignment (r : Reading) (s : List Char) : Option (Reading × List Char) := do
  let (k, s) ← key s
  match skipBlanks s with
  | '=' :: s =>
    let (d, s) ← value depthLimit (s.length + 1) (skipBlanks s)
    let root ← r.root.modifyAt (·.insert k d) r.path
    let s ← endLine s
    return ({ r with root }, s)
  | _ => none

/-- Reads lines. -/
def lines : (fuel : Nat) → Reading → List Char → Option Reading
  | 0, _, _ => none
  | fuel + 1, r, s =>
    match skipBlanks s with
    | [] => some r
    | '[' :: '[' :: s =>
      match header [']', ']'] Entries.openItem r s with
      | some (r, s) => lines fuel r s
      | none => none
    | '[' :: s =>
      match header [']'] Entries.openTable r s with
      | some (r, s) => lines fuel r s
      | none => none
    | s =>
      match endLine s with
      | some s => lines fuel r s
      | none =>
        match assignment r s with
        | some (r, s) => lines fuel r s
        | none => none

/-- The document of a text as data; none if the text is malformed. A byte order mark in front is
left out. -/
def parse? (text : String) : Option Datum :=
  let s := match text.toList with
    | '\ufeff' :: r => r
    | r => r
  (lines (s.length + 2) {} s).map fun r => .map (entriesToData r.root) none

end Assay.Toml
