import Assay.Datum
import Assay.Text.Blank
import Assay.Text.Quoted

/-!
# Why data cannot be decoded

A fault has a cause and, where the format reports it, the place of the value in the document. Faults
are put into words in one place, `Fault.message`. The formats differ in three words only, which a
`Wording` holds: how nothing and floating-point numbers are called, and whether the place is told.
-/

namespace Assay.Decode

/-- A place in a document. -/
inductive Place where
  | root
  | item (parent : Place) (index : Nat)
  | member (parent : Place) (key : String)
  /-- The value of a key that is no scalar. -/
  | unnamed (parent : Place)

/-- A place as text; the root is a dot. -/
def Place.text : Place → String
  | .root => "."
  | .item p i => p.text ++ "[" ++ toString i ++ "]"
  | .member p k => (match p with | .root => "" | _ => p.text ++ ".") ++ k
  | .unnamed p => (match p with | .root => "" | _ => p.text ++ ".") ++ "?"

/-- How many sequences and mappings are around a place. -/
def Place.depth : Place → Nat
  | .root => 0
  | .item p _ | .member p _ | .unnamed p => p.depth + 1

/-- What was found instead of what was wanted. -/
inductive Found where
  | atom (a : Atom)
  | seq
  | map

/-- What is wrong with a test's shape. -/
inductive ShapeFault where
  | bothForms
  | strayExpect
  | noForm
deriving DecidableEq

/-- A shape fault of the test `name` in words. -/
def ShapeFault.message (name : String) : ShapeFault → String
  | .bothForms => "test '" ++ name ++ "': use either 'run' or 'steps', not both"
  | .strayExpect => "test '" ++ name ++ "': 'expect' belongs to each step when 'steps' is used"
  | .noForm => "test '" ++ name ++ "': missing 'run' or 'steps'"

/-- Why a value cannot be decoded. -/
inductive Cause where
  | wrongType (found : Found) (wanted : String)
  | wrongValue (found : Found) (wanted : String)
  | wrongLength (length : Nat) (wanted : String)
  | missing (field : String)
  | unknown (field : String) (fields : List String)
  | duplicate (field : String)
  | noSuchVariant (name : String) (names : List String)
  /-- None of the forms that the type `type` may take fits. -/
  | noForm (type : String)
  /-- A tag of the document's own where any value may stand. -/
  | tagged
  /-- A table that should have one key has none, or has more. -/
  | notOneKey (isEmpty : Bool)
  | payload (message : String)
  /-- The document breaks off. -/
  | brokenOff
  /-- Data are nested too deep. -/
  | tooDeep
  /-- References were followed too often. -/
  | tooManyReferences
  | shape (test : String) (fault : ShapeFault)

/-- A cause, and the place if it is known. -/
structure Fault where
  cause : Cause
  place : Option Place := none

/-- How a format calls things. -/
structure Wording where
  /-- The word for no value. -/
  unit : String
  float : Number.Double → String
  /-- Whether messages begin with the place. -/
  places : Bool

namespace Found

/-- What was found, in a format's words. -/
def describe (w : Wording) : Found → String
  | .atom .null => w.unit
  | .atom (.bool b) => "boolean `" ++ (if b then "true" else "false") ++ "`"
  | .atom (.int n) => "integer `" ++ toString n ++ "`"
  | .atom (.wide n) =>
    "integer `" ++ toString n ++ "` as " ++ (if n < 0 then "i128" else "u128")
  | .atom (.float x) => "floating point `" ++ w.float x ++ "`"
  | .atom (.str s) => "string " ++ Text.quoted s
  | .seq => "sequence"
  | .map => "map"

end Found

/-- Names to choose from, in words. -/
def oneOf : List String → String
  | [] => "there are no variants"
  | [a] => "expected `" ++ a ++ "`"
  | [a, b] => "expected `" ++ a ++ "` or `" ++ b ++ "`"
  | names => "expected one of " ++ Text.join ", " (names.map fun n => "`" ++ n ++ "`")

/-- A cause in a format's words. -/
def Cause.message (w : Wording) : Cause → String
  | .wrongType found wanted => "invalid type: " ++ found.describe w ++ ", expected " ++ wanted
  | .wrongValue found wanted => "invalid value: " ++ found.describe w ++ ", expected " ++ wanted
  | .wrongLength n wanted => "invalid length " ++ toString n ++ ", expected " ++ wanted
  | .missing field => "missing field `" ++ field ++ "`"
  | .unknown field fields => "unknown field `" ++ field ++ "`, " ++ oneOf fields
  | .duplicate field => "duplicate field `" ++ field ++ "`"
  | .noSuchVariant name names => "unknown variant `" ++ name ++ "`, " ++ oneOf names
  | .noForm type => "data did not match any variant of untagged enum " ++ type
  | .tagged => "untagged and internally tagged enums do not support enum input"
  | .notOneKey isEmpty =>
    if isEmpty then "wanted exactly 1 element, found 0 elements"
    else "wanted exactly 1 element, more than 1 element"
  | .payload message => message
  | .brokenOff => "malformed document"
  | .tooDeep => "recursion limit exceeded"
  | .tooManyReferences => "repetition limit exceeded"
  | .shape test fault => fault.message test

/-- Whether a cause is one of the document as a whole, which has no place. -/
def Cause.isGlobal : Cause → Bool
  | .brokenOff | .tooDeep | .tooManyReferences => true
  | _ => false

/-- A fault in a format's words. -/
def Fault.message (w : Wording) (f : Fault) : String :=
  let body := f.cause.message w
  match f.place with
  | some .root | none => body
  | some p => if w.places && !f.cause.isGlobal then p.text ++ ": " ++ body else body

/-- Whether a fault is that the document breaks off. -/
def Fault.isBreak (f : Fault) : Bool :=
  match f.cause with
  | .brokenOff => true
  | _ => false

end Assay.Decode
