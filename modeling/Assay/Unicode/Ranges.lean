/-!
# Sets of code points

A set of code points is a list of intervals in ascending order. The tables of Unicode properties
keep such sets packed in a text: for each interval the distance from the end of the one before and
its length less one, in base 36 and separated by blanks.
-/

namespace Assay.Unicode

/-- An interval of code points, both ends included. -/
structure CodeInterval where
  first : Nat
  last : Nat

/-- Intervals of code points; a set when they are ascending and apart. -/
abbrev Ranges := List CodeInterval

namespace Ranges

/-- Whether a code point lies in one of the intervals. -/
def has (r : Ranges) (n : Nat) : Bool :=
  r.any fun i => i.first ≤ n && n ≤ i.last

/-- Adds an interval in front of ascending intervals, joining those that it meets. -/
def absorb (i : CodeInterval) : Ranges → Ranges
  | [] => [i]
  | j :: rest =>
    if j.first ≤ i.last + 1 then absorb ⟨i.first, max i.last j.last⟩ rest else i :: j :: rest

/-- Ascending intervals that hold the same code points, apart from each other. -/
def normalize (r : Ranges) : Ranges :=
  (r.mergeSort fun a b => a.first ≤ b.first).foldr absorb []

/-- The code points from `start` on that ascending intervals leave out. -/
def gaps (start limit : Nat) : Ranges → Ranges
  | [] => if start ≤ limit then [⟨start, limit⟩] else []
  | i :: rest =>
    if start < i.first then ⟨start, i.first - 1⟩ :: gaps (i.last + 1) limit rest
    else gaps (i.last + 1) limit rest

/-- The greatest code point. -/
def limit : Nat := 0x10FFFF

/-- The code points outside. -/
def complement (r : Ranges) : Ranges :=
  gaps 0 limit r.normalize

/-- The code points in either. -/
def union (r s : Ranges) : Ranges :=
  normalize (r ++ s)

/-- The code points in both. -/
def inter (r s : Ranges) : Ranges :=
  complement (complement r ++ complement s)

/-- The code points in the first and not in the second. -/
def diff (r s : Ranges) : Ranges :=
  inter r (complement s)

/-- The value of a digit in base 36. -/
def digitValue (c : Char) : Nat :=
  if c.isDigit then c.toNat - '0'.toNat else c.toNat - 'a'.toNat + 10

/-- Reads packed intervals: `number` is the one being read, `gap` the distance read before it, if
that is complete, and `position` the end of the interval before. -/
def unpackFrom (position : Nat) (gap : Option Nat) (number : Nat) : List Char → Ranges
  | [] => match gap with
    | some g => [⟨position + g, position + g + number⟩]
    | none => []
  | c :: cs =>
    if c = ' ' then
      match gap with
      | none => unpackFrom position (some number) 0 cs
      | some g =>
        ⟨position + g, position + g + number⟩ :: unpackFrom (position + g + number + 1) none 0 cs
    else unpackFrom position gap (number * 36 + digitValue c) cs

/-- The set that a packed text holds. -/
def unpack (packed : String) : Ranges :=
  unpackFrom 0 none 0 packed.toList

/-- The set that a packed text in pieces holds, to be read with a blank between them. -/
def unpackLines (packed : List String) : Array CodeInterval :=
  (unpack (String.intercalate " " packed)).toArray

end Ranges

/-- A property of characters: its names, and the packed set of code points that have it in pieces
to be read with a blank between them. -/
structure NamedSet where
  names : List String
  packed : List String

/-- The code points that have the property. -/
def NamedSet.ranges (s : NamedSet) : Ranges :=
  Ranges.unpack (String.intercalate " " s.packed)

end Assay.Unicode
