import Std.Data.HashMap.Basic

/-!
# Tables

A table holds values by keys, which are octets or whole numbers; a number and the octets that write
it are the same key. The order in which keys are gone through follows from where they are kept: in
lists, which are found by the keys' places, with the keys that were used last in front. Keys that
came as numbers are kept by their numbers until the first key comes that is none.
-/

namespace Assay.Awk

/-- A key, as octets. -/
abbrev Key := List UInt8

/-- The place of a key: each octet is mixed in and spread over 32 bits. -/
def keyPlace (k : Key) : Nat :=
  k.foldl (fun h b => (h ^^^ b.toNat) * 16777619 % 4294967296) 2166136261

/-- The octets that write a number. -/
def keyOf (n : Int) : Key :=
  (toString n).toUTF8.toList

/-- How long the lists of a table are on average before there are more of them. -/
def maxListLength : Nat := 12

/-- A table of values. -/
structure Table (α : Type) where
  values : Std.HashMap Key α := {}
  /-- The keys in their lists. -/
  texts : Array (List Key) := Array.replicate 64 []
  /-- The numbers of keys in their lists. -/
  numbers : Array (List Int) := Array.replicate 64 []
  /-- Whether the lists of keys hold all of them. -/
  complete : Bool := false

namespace Table

variable {α : Type}

/-- The number of keys. -/
def size (t : Table α) : Nat :=
  t.values.size

/-- The list of a key. -/
def textList (t : Table α) (k : Key) : Nat :=
  keyPlace k % t.texts.size

/-- The list of a number. -/
def numberList (t : Table α) (n : Int) : Nat :=
  (n % t.numbers.size).toNat

/-- Each list cut in two, by where keys belong if there are twice as many. -/
def split {β : Type} (place : β → Nat → Nat) (lists : Array (List β)) : Array (List β) :=
  let more := 2 * lists.size
  let old := lists.mapIdx fun i l => l.filter fun k => place k more = i
  old ++ lists.mapIdx fun i l => l.filter fun k => place k more ≠ i

/-- Makes room for one more key. -/
def grow (t : Table α) : Table α :=
  if t.size + 1 ≤ maxListLength * t.texts.size then t
  else
    { t with
      texts := split (fun k n => keyPlace k % n) t.texts
      numbers := split (fun k n => (k % (n : Int)).toNat) t.numbers }

/-- Puts all keys into the lists of keys. -/
def completed (t : Table α) : Table α :=
  if t.complete then t
  else
    let put (texts : Array (List Key)) (n : Int) : Array (List Key) :=
      texts.modify (keyPlace (keyOf n) % texts.size) (keyOf n :: ·)
    { t with
      texts := t.numbers.foldl (fun texts l => l.foldl put texts) t.texts
      complete := true }

/-- Puts a key in front of its list. -/
def touchText (t : Table α) (k : Key) : Table α :=
  let t := t.completed
  let i := t.textList k
  { t with texts := t.texts.modify i fun l => k :: l.erase k }

/-- Puts a number in front of its list. -/
def touchNumber (t : Table α) (n : Int) : Table α :=
  let i := t.numberList n
  let known := ((t.numbers[i]?).getD []).contains n
  let t := if known || !t.complete then t else t.touchText (keyOf n)
  { t with numbers := t.numbers.modify i fun l => n :: l.erase n }

/-- Notes that a key is used, which came as octets or as a number. -/
def touch (t : Table α) (k : Key) (number : Option Int) : Table α :=
  match number with
  | some n => t.touchNumber n
  | none => t.touchText k

/-- The value of a key. -/
def get? (t : Table α) (k : Key) : Option α :=
  t.values[k]?

/-- Looks for a key: whether it is there. -/
def look (t : Table α) (k : Key) (number : Option Int) : Bool × Table α :=
  if t.values.contains k then (true, t.touch k number)
  else (false, if number.isSome then t else t.completed)

/-- Sets the value of a key. -/
def insert (t : Table α) (k : Key) (number : Option Int) (v : α) : Table α :=
  let known := t.values.contains k
  let t := if number.isSome && !t.complete then t else t.completed
  let t := (if known then t else t.grow).touch k number
  { t with values := t.values.insert k v }

/-- Takes a key out. -/
def erase (t : Table α) (k : Key) (number : Option Int) : Table α :=
  if !t.values.contains k then t
  else
    let t := t.touch k number
    let values := t.values.erase k
    if values.isEmpty then {}
    else
      let numbers := match number with
        | some n => t.numbers.modify (t.numberList n) (·.erase n)
        | none => t.numbers.map fun l => l.filter fun n => keyOf n ≠ k
      { t with values, numbers, texts := t.texts.modify (t.textList k) (·.erase k) }

/-- The keys in their order. -/
def keys (t : Table α) : List Key × Table α :=
  let t := t.completed
  ((t.texts.toList).flatten, t)

/-- The table of values that are numbered from one on. -/
def ofList (vs : List α) : Table α :=
  let rec room (fuel size : Nat) : Nat :=
    match fuel with
    | 0 => size
    | fuel + 1 => if vs.length ≤ maxListLength * size then size else room fuel (2 * size)
  let size := room vs.length 64
  let empty : Table α := { texts := Array.replicate size [], numbers := Array.replicate size [] }
  (vs.zipIdx 1).foldl (fun t (v, i) => t.insert (keyOf i) (some (i : Int)) v) empty

end Table

end Assay.Awk
