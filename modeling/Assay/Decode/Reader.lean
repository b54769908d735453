import Assay.Decode.Fault

/-!
# Readers of data

A reader takes a place and the data found there to a value or a fault. Where the data is a reference
the reader follows it; how often that may happen in a document is limited. What the formats decide
differently is in `Format`: their words, whether a record may be given as the sequence of its
fields, whether such a sequence may be too long, and how the name of a variant is written.

Members of a mapping are read in the order of the document, so of two faulty members the first is
reported; a field that is missing is reported only when all members were read.
-/

namespace Assay.Decode

/-- What references stand for, and how many more may be followed. -/
structure References where
  data : List (Nat × Datum) := []
  left : Nat := 0

/-- A computation that may follow references. -/
abbrev Decoder := StateT References (Except Fault)

/-- Refuses data; the place of the fault is not known yet. -/
def refuse {α : Type} (c : Cause) : Decoder α :=
  throw { cause := c }

/-- A fault where it has no place yet gets one. -/
def located {α : Type} (p : Place) (d : Decoder α) : Decoder α := fun r =>
  match d r with
  | .ok a => .ok a
  | .error f => .error { f with place := f.place <|> some p }

/-- The data that a reference stands for, or the data itself if it is none. -/
def follow (d : Datum) : Decoder Datum := do
  match d with
  | .ref n =>
    let r ← get
    match r.left, r.data.lookup n with
    | 0, _ => refuse .tooManyReferences
    | left + 1, some d =>
      set { r with left }
      return d
    | _, none => refuse .brokenOff
  | d => return d

/-- The name of a variant, what is wrong with the value that goes with it, if anything is, and
whether a tag gives the name. -/
structure Variant where
  name : String
  payload : Option Cause
  tagged : Bool := false

/-- The decisions of a format. -/
structure Format where
  wording : Wording
  /-- Whether a record may be given as a sequence. -/
  records : Bool
  /-- Whether a sequence with more items than a record has fields is refused. -/
  strict : Bool
  variant : Datum → Except Cause Variant

/-- A reader of values at a place. -/
abbrev Reader (α : Type) := Place → Datum → Decoder α

/-- What a reader makes of data at the root. -/
def Reader.run {α : Type} (read : Reader α) (d : Datum) (references : References := {}) :
    Except Fault α :=
  (read .root d references).map Prod.fst

/-- What a scalar turned out to be, or what its tag refuses. -/
def Found.ofScalar (s : Scalar) : Except Cause Found :=
  match s.atom with
  | .ok a => .ok (.atom a)
  | .error t =>
    match s with
    | .written text _ _ => .error (.wrongValue (.atom (.str text)) t.wants)
    | .exact a => .error (.wrongValue (.atom a) t.wants)

/-- The cause that something else was wanted. -/
def wrongType (d : Datum) (wanted : String) : Cause :=
  match d with
  | .seq .. => .wrongType .seq wanted
  | .map .. => .wrongType .map wanted
  | .scalar s =>
    match Found.ofScalar s with
    | .ok found => .wrongType found wanted
    | .error c => c
  | .ref _ | .cut => .brokenOff

/-- Refuses data because something else was wanted. -/
def refuseType {α : Type} (p : Place) (d : Datum) (wanted : String) : Decoder α :=
  located p (refuse (wrongType d wanted))

/-- Reads a scalar that a function takes to a value. -/
def scalar {α : Type} (wanted : String) (value? : Scalar → Option α) : Reader α := fun p d => do
  let d ← follow d
  match d with
  | .scalar s => match value? s with
    | some a => return a
    | none => refuseType p d wanted
  | _ => refuseType p d wanted

/-- Reads a string. -/
def string (wanted : String) : Reader String :=
  scalar wanted Scalar.text?

/-- Reads a string. -/
def text : Reader String :=
  string "a string"

/-- Reads a truth value. -/
def bool : Reader Bool :=
  scalar "a boolean" Scalar.bool?

/-- Reads a whole number from `low` to `high`. -/
def number (low high : Int) (wanted : String) (value? : Scalar → Option Int) : Reader Int :=
  fun p d => do
    let n ← scalar wanted value? p d
    if low ≤ n && n ≤ high then return n
    else located p (refuse (.wrongValue (.atom (.int n)) wanted))

/-- Reads a whole number of 32 bits without a sign. -/
def word32 : Reader Nat := fun p d =>
  Int.toNat <$> number 0 (Nat.pow 2 32 - 1) "u32" Scalar.unsigned? p d

/-- Reads a whole number of 64 bits without a sign. -/
def word64 : Reader Nat := fun p d =>
  Int.toNat <$> number 0 (Nat.pow 2 64 - 1) "u64" Scalar.unsigned? p d

/-- Reads a whole number of 32 bits with a sign. -/
def int32 : Reader Int :=
  number (-(Nat.pow 2 31)) (Nat.pow 2 31 - 1) "i32" Scalar.signed?

/-- Reads a value that may be left out. -/
def optional {α : Type} (read : Reader α) : Reader (Option α) := fun p d => do
  let d ← follow d
  match d with
  | .scalar s =>
    match s.isAbsent with
    | .ok true => return none
    | .ok false => some <$> read p d
    | .error t => refuse (match s with
      | .written text _ _ => .wrongValue (.atom (.str text)) t.wants
      | .exact a => .wrongValue (.atom a) t.wants)
  | _ => some <$> read p d

/-- Reads the items of a sequence from the index `i` on. -/
def itemsFrom {α : Type} (read : Reader α) (p : Place) (i : Nat) : List Datum → Decoder (List α)
  | [] => return []
  | d :: rest => do
    let a ← read (.item p i) d
    let as ← itemsFrom read p (i + 1) rest
    return a :: as

/-- Reads a sequence. -/
def list {α : Type} (read : Reader α) : Reader (List α) := fun p d => do
  let d ← follow d
  match d with
  | .seq items _ => located p (itemsFrom read p 0 items)
  | .scalar s => if s.isHollow then return [] else refuseType p d "a sequence"
  | _ => refuseType p d "a sequence"

/-- Reads one of several names. That a tag is none of them is a fault of what is around it, unless
a reference leads to it. -/
def variant {α : Type} (f : Format) (names : List String) (value? : String → Option α) :
    Reader α := fun p d => do
  let target ← follow d
  match f.variant target with
  | .error c => located p (refuse c)
  | .ok v =>
    match value? v.name with
    | none =>
      let fault : Decoder α := refuse (.noSuchVariant v.name names)
      match d with
      | .ref _ => located p fault
      | _ => if v.tagged then fault else located p fault
    | some a =>
      match v.payload with
      | some c => located p (refuse c)
      | none => return a

/-- A field of a record: its name, whether it must be there, and how its value changes a record. -/
structure Field (α : Type) where
  name : String
  required : Bool := false
  read : Reader (α → α)

/-- A field whose value a function puts into the record. -/
def Field.of {α β : Type} (name : String) (read : Reader β) (put : β → α → α)
    ( required : Bool := false) : Field α :=
  { name, required, read := fun p d => put <$> read p d }

/-- A kind of record: its name, its fields in order, and whether other members are refused. -/
structure Record (α : Type) where
  name : String
  fields : List (Field α)
  closed : Bool := false

namespace Record

/-- The names of the fields. -/
def names {α : Type} (r : Record α) : List String :=
  r.fields.map Field.name

/-- The key of a member: the field with that name, or by number; none if there is no such field. -/
def key {α : Type} (r : Record α) (p : Place) (k : Datum) : Decoder (Option (Field α)) := do
  match k with
  | .scalar (.exact (.int n)) =>
    if 0 ≤ n then return r.fields[n.toNat]? else refuseType p k "field identifier"
  | _ =>
    let name ← string "field identifier" p k
    match r.fields.find? (·.name = name) with
    | some field => return some field
    | none => if r.closed then located p (refuse (.unknown name r.names)) else return none

/-- The place of the value of a key. -/
def placeOf (p : Place) : Datum → Place
  | .scalar s => match s.text? with
    | some k => .member p k
    | none => .unnamed p
  | _ => .unnamed p

/-- Reads the members of a mapping into a record, with the names of the fields read so far. -/
def members {α : Type} (r : Record α) (p : Place) (seen : List String) (value : α) :
    List (Datum × Datum) → Decoder (List String × α)
  | [] => return (seen, value)
  | (k, d) :: rest => do
    match ← r.key p k with
    | none => if d.isWhole then r.members p seen value rest else refuse .brokenOff
    | some field =>
      if seen.contains field.name then refuse (.duplicate field.name)
      else
        let put ← field.read (placeOf p k) d
        r.members p (field.name :: seen) (put value) rest

/-- Refuses a record without a field that must be there. -/
def complete {α : Type} (seen : List String) (value : α) : List (Field α) → Decoder α
  | [] => return value
  | field :: rest =>
    if field.required && !seen.contains field.name then refuse (.missing field.name)
    else complete seen value rest

/-- Reads a mapping into a record. -/
def ofMembers {α : Type} (r : Record α) (empty : α) (p : Place) (entries : List (Datum × Datum)) :
    Decoder α := do
  let (seen, value) ← r.members p [] empty entries
  complete seen value r.fields

/-- What a record of so many fields is called. -/
def wanted {α : Type} (r : Record α) : String :=
  "struct " ++ r.name

/-- Reads a sequence of the values of the fields from the index `i` on. -/
def items {α : Type} (r : Record α) (p : Place) (i : Nat) (value : α) :
    List (Field α) → List Datum → Decoder (α × List Datum)
  | [], rest => return (value, rest)
  | field :: fields, d :: rest => do
    let put ← field.read (.item p i) d
    r.items p (i + 1) (put value) fields rest
  | field :: fields, [] =>
    if field.required then
      let n := r.fields.length
      refuse (.wrongLength i (r.wanted ++ " with " ++ toString n ++
        (if n = 1 then " element" else " elements")))
    else r.items p (i + 1) value fields []

/-- Reads a record from a mapping, or where the format has it from a sequence. -/
def reader {α : Type} (f : Format) (r : Record α) (empty : α) : Reader α := fun p d => do
  let d ← follow d
  match d with
  | .map entries _ => located p (r.ofMembers empty p entries)
  | .seq items _ =>
    if f.records then located p do
      let (value, rest) ← r.items p 0 empty r.fields items
      if f.strict && !rest.isEmpty then
        refuse (.wrongLength items.length "fewer elements in array")
      else return value
    else refuseType p d r.wanted
  | .scalar s => if s.isHollow then located p (r.ofMembers empty p []) else refuseType p d r.wanted
  | _ => refuseType p d r.wanted

end Record

/-- The one variant that data names in the way of JSON: a string, or a mapping whose only member has
the name as its key and goes with a value, which must be nothing. -/
def jsonVariant (d : Datum) : Except Cause Variant :=
  match d with
  | .scalar (.exact (.str name)) => .ok { name, payload := none }
  | .map [(.scalar (.exact (.str name)), payload)] _ =>
    .ok {
      name
      payload := match payload with
        | .scalar (.exact .null) => none
        | d => some (wrongType d "unit") }
  | .map .. => .error (.wrongValue .map "map with a single key")
  | d => .error (wrongType d "string or map")

/-- Resolves the items of a sequence from the index `i` on. -/
def resolveItems (one : Reader Datum) (p : Place) (i : Nat) : List Datum → Decoder (List Datum)
  | [] => return []
  | d :: rest => do
    let d ← one (.item p i) d
    let rest ← resolveItems one p (i + 1) rest
    return d :: rest

/-- Resolves the members of a mapping. -/
def resolveEntries (one : Reader Datum) (p : Place) :
    List (Datum × Datum) → Decoder (List (Datum × Datum))
  | [] => return []
  | (k, d) :: rest => do
    let key ← one p k
    let d ← one (Record.placeOf p k) d
    let rest ← resolveEntries one p rest
    return (key, d) :: rest

/-- A scalar resolved to its value. A tag of the document's own is refused. -/
def resolveScalar (s : Scalar) : Decoder Datum :=
  match s with
  | .exact a => return .scalar (.exact a)
  | .written _ _ tag =>
    if (localTag? tag).isSome then refuse .tagged
    else match Found.ofScalar s with
      | .error c => refuse c
      | .ok (.atom (.wide n)) => refuse (.wrongType (.atom (.wide n)) "any value")
      | .ok (.atom a) => return .scalar (.exact a)
      | .ok _ => return .scalar s

/-- Data with every scalar resolved to its value, as it is kept while the forms of a value that has
several are tried, with so many levels left. Tags of the document's own are refused. -/
def resolve : (levels : Nat) → Reader Datum
  | 0, p, d => do
    let d ← follow d
    match d with
    | .scalar s => located p (resolveScalar s)
    | .seq _ tag | .map _ tag =>
      if (localTag? tag).isSome then located p (refuse .tagged) else refuse .tooDeep
    | .ref _ | .cut => refuse .brokenOff
  | levels + 1, p, d => do
    let d ← follow d
    match d with
    | .scalar s => located p (resolveScalar s)
    | .seq items tag =>
      if (localTag? tag).isSome then located p (refuse .tagged)
      else return .seq (← resolveItems (resolve levels) p 0 items) none
    | .map entries tag =>
      if (localTag? tag).isSome then located p (refuse .tagged)
      else return .map (← resolveEntries (resolve levels) p entries) none
    | .ref _ | .cut => refuse .brokenOff

/-- The words of JSON, which are never seen when forms are tried. -/
def plainWording : Wording :=
  { unit := "null", float := fun x => x.render, places := false }

/-- How resolved data is read. -/
def resolved : Format :=
  { wording := plainWording, records := true, strict := true, variant := jsonVariant }

/-- How deep the data of a document may be nested. -/
def depthLimit : Nat :=
  128

/-- Reads a value of a type with several forms: the first form that fits the resolved data. -/
def forms {α : Type} (type : String) (attempt : Datum → Option α) : Reader α := fun p d => do
  let d ← resolve (depthLimit - p.depth) p d
  match attempt d with
  | some a => return a
  | none => refuse (.noForm type)

end Assay.Decode
