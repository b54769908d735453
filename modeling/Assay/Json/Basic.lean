import Assay.Number.Double

/-!
# JSON values

Whole numbers are kept apart from the others: a number written without point and exponent is whole
if it is at least `-2^63` and below `2^64`. The members of an object keep their order; objects that
were read have their members in ascending order of the keys, each key once.
-/

namespace Assay

/-- A JSON value. -/
inductive Json where
  | null
  | bool (b : Bool)
  | int (n : Int)
  | float (x : Number.Double)
  | str (s : String)
  | arr (items : List Json)
  | obj (members : List (String × Json))

namespace Json

/-- The value of a member of an object. -/
def get? (key : String) : Json → Option Json
  | .obj members => members.lookup key
  | _ => none

/-- The string that a value is. -/
def str? : Json → Option String
  | .str s => some s
  | _ => none

/-- The members in ascending order of the keys, with one more put in its place; a member of the same
key is replaced. -/
def put (key : String) (v : Json) : List (String × Json) → List (String × Json)
  | [] => [(key, v)]
  | (k, w) :: rest =>
    if key = k then (key, v) :: rest
    else if key < k then (key, v) :: (k, w) :: rest
    else (k, w) :: put key v rest

/-- An object whose members go by their keys in ascending order. -/
def sorted (members : List (String × Json)) : Json :=
  .obj (members.foldl (fun done m => put m.1 m.2 done) [])

/-- An optional value; null if it is missing. -/
def ofOption {α : Type} (f : α → Json) : Option α → Json
  | some a => f a
  | none => .null

/-- A natural number. -/
def ofNat (n : Nat) : Json := .int n

end Json

end Assay
