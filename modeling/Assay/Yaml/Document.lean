import Assay.Decode.Reader
import Assay.Yaml.Tree

/-!
# Readable documents of YAML

A document is readable when every part of it has a value of its own: tags of the core schema fit, no
number is too wide, no mapping has a key twice, nothing is nested too deep, and its references, all
of them followed, are not too many. Records may be read from a document that is not readable, when
the faulty parts belong to no field.
-/

namespace Assay.Yaml

mutual

/-- How many marks and scalars write data. -/
def size : Datum → Nat
  | .scalar _ | .ref _ => 1
  | .seq items _ => 1 + sizeOfItems items
  | .map entries _ => 1 + sizeOfEntries entries
  | .cut => 0

/-- How many marks and scalars write items, with the mark at their end. -/
def sizeOfItems : List Datum → Nat
  | [] => 1
  | [.cut] => 0
  | d :: rest => size d + sizeOfItems rest

/-- How many marks and scalars write the members of a mapping, with the mark at its end. -/
def sizeOfEntries : List (Datum × Datum) → Nat
  | [] => 1
  | (k, v) :: rest => size k + size v + sizeOfEntries rest

end

/-- The references of a document, and how many of them may be followed. -/
def Document.references (d : Document) : Decode.References :=
  { data := d.referents, left := 100 * size d.content }

/-- The name of a tag without the exclamation mark in front. -/
def bareTag (tag : String) : String :=
  match tag.toList with
  | '!' :: c :: rest => String.ofList (c :: rest)
  | _ => tag

/-- Whether two tags are one, those of the core schema apart. -/
def sameTag (a b : Option String) : Bool :=
  (localTag? a).map bareTag == (localTag? b).map bareTag

/-- Whether two values of scalars are one: zero is one value whatever its sign, and so is what is no
number. -/
def sameAtom (a b : Atom) : Bool :=
  match a, b with
  | .float x, .float y => x.isSame y
  | _, _ => a == b

/-- Whether two scalars have one value. -/
def sameScalar (a b : Scalar) : Bool :=
  match a.atom, b.atom with
  | .ok x, .ok y =>
    sameAtom x y &&
      match a, b with
      | .written _ _ s, .written _ _ t => sameTag s t
      | _, _ => true
  | _, _ => false

mutual

/-- Whether two data have one value. The order of the keys of a mapping does not matter. -/
def sameDatum : Datum → Datum → Bool
  | .scalar a, .scalar b => sameScalar a b
  | .seq as s, .seq bs t => sameTag s t && sameItems as bs
  | .map as s, .map bs t => sameTag s t && as.length == bs.length && areAmong as bs
  | _, _ => false

/-- Whether two sequences have one value. -/
def sameItems : List Datum → List Datum → Bool
  | [], [] => true
  | a :: as, b :: bs => sameDatum a b && sameItems as bs
  | _, _ => false

/-- Whether all members of a mapping are among those of another. -/
def areAmong : List (Datum × Datum) → List (Datum × Datum) → Bool
  | [], _ => true
  | (k, v) :: as, bs => (bs.any fun (l, w) => sameDatum k l && sameDatum v w) && areAmong as bs

end

/-- A value of its own that a scalar has. -/
def scalarValue (s : Scalar) : Decode.Decoder Datum :=
  match Decode.Found.ofScalar s with
  | .error c => Decode.refuse c
  | .ok (.atom (.wide n)) => Decode.refuse (.wrongType (.atom (.wide n)) "any YAML value")
  | .ok _ => return .scalar s

/-- The values of items. -/
def valuesOfItems (one : Datum → Decode.Decoder Datum) :
    List Datum → Decode.Decoder (List Datum)
  | [] => return []
  | d :: rest => return (← one d) :: (← valuesOfItems one rest)

/-- The values of the members of a mapping behind those that were read, in reverse. -/
def valuesOfEntries (one : Datum → Decode.Decoder Datum) (read : List (Datum × Datum)) :
    List (Datum × Datum) → Decode.Decoder (List (Datum × Datum))
  | [] => return read.reverse
  | (k, v) :: rest => do
    let k ← one k
    if read.any fun e => sameDatum k e.1 then Decode.refuse (.duplicate "")
    else
      let v ← one v
      valuesOfEntries one ((k, v) :: read) rest

/-- Data without references, if every part of it has a value, with so many levels left. -/
def value : (levels : Nat) → Datum → Decode.Decoder Datum
  | levels, d => do
    match levels, ← Decode.follow d with
    | _, .scalar s => scalarValue s
    | levels + 1, .seq items tag => return .seq (← valuesOfItems (value levels) items) tag
    | levels + 1, .map entries tag => return .map (← valuesOfEntries (value levels) [] entries) tag
    | 0, .seq .. | 0, .map .. => Decode.refuse .tooDeep
    | _, .ref _ | _, .cut => Decode.refuse .brokenOff

/-- Whether a document is one and every part of it has a value. -/
def Document.isReadable (d : Document) : Bool :=
  d.fault.isNone &&
    match value Decode.depthLimit d.content d.references with
    | .ok _ => true
    | .error _ => false

end Assay.Yaml
