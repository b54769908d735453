import Assay.Json.Basic
import Assay.Yaml.CoreSchema

/-!
# Data to be decoded

Case files come in three formats. A datum is what they have in common: scalars, sequences and
mappings. In two of the formats a scalar has one value. In YAML it is a text, whose value may depend
on what is asked of it: an unquoted `5` is the string `5` where a string is wanted and a number
where anything is. There data may also refer to other data by a number.
-/

namespace Assay

/-- The value of a scalar. -/
inductive Atom where
  | null
  | bool (b : Bool)
  | int (n : Int)
  /-- A whole number that takes more than 64 bits. -/
  | wide (n : Int)
  | float (x : Number.Double)
  | str (s : String)
deriving DecidableEq

/-- How a scalar of text is written. -/
inductive Style where
  | plain | quoted | literal
deriving DecidableEq

/-- A scalar: a value, or a text with its style and its tag. -/
inductive Scalar where
  | exact (a : Atom)
  | written (text : String) (style : Style) (tag : Option String)

/-- Data to be decoded. -/
inductive Datum where
  | scalar (s : Scalar)
  | seq (items : List Datum) (tag : Option String)
  | map (entries : List (Datum × Datum)) (tag : Option String)
  /-- The data with that number. -/
  | ref (number : Nat)
  /-- What is not there because the document breaks off. -/
  | cut

namespace Datum

mutual

/-- Whether nothing is missing because the document breaks off. -/
def isWhole : Datum → Bool
  | .scalar _ | .ref _ => true
  | .seq items _ => areWhole items
  | .map entries _ => entriesWhole entries
  | .cut => false

/-- Whether all of some data are whole. -/
def areWhole : List Datum → Bool
  | [] => true
  | d :: rest => d.isWhole && areWhole rest

/-- Whether all keys and values are whole. -/
def entriesWhole : List (Datum × Datum) → Bool
  | [] => true
  | (k, v) :: rest => k.isWhole && v.isWhole && entriesWhole rest

end

end Datum

namespace Atom

/-- What an untagged and unquoted text stands for. -/
def ofText (text : String) : Atom :=
  let s := text.toList
  if s.isEmpty || Yaml.isNull s then .null
  else match Yaml.bool? s with
    | some b => .bool b
    | none =>
      match Yaml.natural? s, Yaml.negative? s with
      | some n, _ =>
        if n < Nat.pow 2 64 then .int n
        else if n < Nat.pow 2 128 then .wide n
        else floatOr s text
      | none, some n =>
        if -(Nat.pow 2 63) ≤ n then .int n
        else if -(Nat.pow 2 127) ≤ n then .wide n
        else floatOr s text
      | none, none => floatOr s text
where
  /-- The floating-point number or else the string. -/
  floatOr (s : List Char) (text : String) : Atom :=
    match (if Yaml.isZeroPadded s then none else Yaml.float? s) with
    | some x => .float x
    | none => .str text

end Atom

/-- The tags of the core schema. -/
inductive CoreTag where
  | null | bool | int | float
deriving DecidableEq

/-- The core schema's meaning of a tag. -/
def CoreTag.of? (tag : String) : Option CoreTag :=
  match tag with
  | "tag:yaml.org,2002:null" => some .null
  | "tag:yaml.org,2002:bool" => some .bool
  | "tag:yaml.org,2002:int" => some .int
  | "tag:yaml.org,2002:float" => some .float
  | _ => none

/-- A value that a tag wants, in words. -/
def CoreTag.wants : CoreTag → String
  | .null => "null"
  | .bool => "a boolean"
  | .int => "an integer"
  | .float => "a float"

/-- The value of a text under a tag of the core schema, if the text stands for one. -/
def CoreTag.read? (tag : CoreTag) (text : String) : Option Atom :=
  let s := text.toList
  match tag with
  | .null => if Yaml.isNull s then some .null else none
  | .bool => (Yaml.bool? s).map .bool
  | .float => (Yaml.float? s).map .float
  | .int => match Atom.ofText text with
    | .int n => some (.int n)
    | .wide n => some (.wide n)
    | _ => none

/-- The name of a tag that stands for none of the core schema's types. -/
def localTag? (tag : Option String) : Option String :=
  match tag.map String.toList with
  | some ['!'] => some "!"
  | some ('!' :: name) => some (String.ofList name)
  | _ => none

namespace Scalar

/-- The value of a scalar where anything may stand; for a text that is not of the type its tag says,
the tag. -/
def atom : Scalar → Except CoreTag Atom
  | .exact a => .ok a
  | .written text style tag =>
    match tag.bind CoreTag.of? with
    | some t =>
      match t.read? text with
      | some a => .ok a
      | none => .error t
    | none =>
      if style = .plain && (tag.isNone || (localTag? tag).isSome) then .ok (Atom.ofText text)
      else .ok (.str text)

/-- The string that a scalar is where a string is wanted. -/
def text? : Scalar → Option String
  | .exact (.str s) => some s
  | .exact _ => none
  | .written text _ _ => some text

/-- Whether a scalar of text is open to a reading of the type of the tag. -/
def isOpen (style : Style) (tag : Option String) (want : CoreTag) : Bool :=
  style = .plain || (style = .literal && tag.bind CoreTag.of? = some want)

/-- The truth value that a scalar is where one is wanted. -/
def bool? : Scalar → Option Bool
  | .exact (.bool b) => some b
  | .exact _ => none
  | .written text style tag => if isOpen style tag .bool then Yaml.bool? text.toList else none

/-- The number that a scalar is where a whole number of 64 bits is wanted; `read?` says which texts
write one. -/
def whole? (read? : List Char → Option Int) : Scalar → Option Int
  | .exact (.int n) => some n
  | .exact _ => none
  | .written text style tag => if isOpen style tag .int then read? text.toList else none

/-- The number that a scalar is where one without a sign is wanted. A text with a minus sign writes
none, not even zero. -/
def unsigned? : Scalar → Option Int :=
  whole? fun s => (Yaml.natural? s).bind fun n => if n < Nat.pow 2 64 then some (n : Int) else none

/-- The number that a scalar is where one with a sign is wanted. -/
def signed? : Scalar → Option Int :=
  whole? fun s =>
    match Yaml.natural? s, Yaml.negative? s with
    | some n, _ => if n < Nat.pow 2 63 then some n else none
    | none, some n => if -(Nat.pow 2 63) ≤ n then some n else none
    | none, none => none

/-- Whether a scalar stands for nothing where a value may be left out; an error for a text that is
tagged as null and is not. -/
def isAbsent : Scalar → Except CoreTag Bool
  | .exact .null => .ok true
  | .exact _ => .ok false
  | .written text style tag =>
    if style ≠ .plain then .ok false
    else match tag with
      | none => .ok (text.isEmpty || Yaml.isNull text.toList)
      | some t =>
        if CoreTag.of? t = some .null then
          if Yaml.isNull text.toList then .ok true else .error .null
        else .ok false

/-- Whether a scalar is the empty text without quotes, which also stands for no items at all. -/
def isHollow : Scalar → Bool
  | .exact _ => false
  | .written text style _ => text.isEmpty && style = .plain

/-- Whether a scalar is null. -/
def isUnit : Scalar → Bool
  | .exact .null => true
  | .exact _ => false
  | .written text style tag =>
    style = .plain &&
      match tag.bind CoreTag.of? with
      | some t => t = .null && Yaml.isNull text.toList
      | none => text.isEmpty || Yaml.isNull text.toList

end Scalar

/-- JSON as data. -/
def Json.toDatum : Json → Datum
  | .null => .scalar (.exact .null)
  | .bool b => .scalar (.exact (.bool b))
  | .int n => .scalar (.exact (.int n))
  | .float x => .scalar (.exact (.float x))
  | .str s => .scalar (.exact (.str s))
  | .arr items => .seq (ofItems items) none
  | .obj members => .map (ofMembers members) none
where
  /-- The items of an array as data. -/
  ofItems : List Json → List Datum
    | [] => []
    | v :: rest => v.toDatum :: ofItems rest
  /-- The members of an object as data. -/
  ofMembers : List (String × Json) → List (Datum × Datum)
    | [] => []
    | (k, v) :: rest => (.scalar (.exact (.str k)), v.toDatum) :: ofMembers rest

end Assay
