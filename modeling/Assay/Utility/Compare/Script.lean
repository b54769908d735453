import Std.Data.HashMap.Basic

/-!
# What is different in two sequences

The changes that make one sequence of another, as few as possible. They are found from both ends:
two searches go through the numbers of changes step by step until they meet, which cuts the task in
two smaller ones. Numbers stand for what is compared; equal ones for equal things.

Changes are then moved to where they are expected: as far down as possible, but next to those in the
other sequence.
-/

namespace Assay.Compare

/-- Two sequences. -/
structure Pair where
  left : Array Nat
  right : Array Nat

/-- Whether the things at two places are the same. -/
def Pair.same (p : Pair) (x y : Int) : Bool :=
  0 ≤ x && 0 ≤ y &&
    match p.left[x.toNat]?, p.right[y.toNat]? with
    | some a, some b => a = b
    | _, _ => false

/-- A part of both sequences: from one place to another one in each. -/
structure Window where
  x : Int
  xEnd : Int
  y : Int
  yEnd : Int

/-- How far a place of the left sequence can be moved on with its counterpart in the right one, over
things that are the same; by so many steps at most. -/
def Pair.slide (p : Pair) (w : Window) (diagonal : Int) : (fuel : Nat) → (x : Int) → Int
  | 0, x => x
  | fuel + 1, x =>
    if x < w.xEnd && x - diagonal < w.yEnd && p.same x (x - diagonal) then
      p.slide w diagonal fuel (x + 1)
    else x

/-- How far a place can be moved back over things that are the same. -/
def Pair.slideBack (p : Pair) (w : Window) (diagonal : Int) : (fuel : Nat) → (x : Int) → Int
  | 0, x => x
  | fuel + 1, x =>
    if w.x < x && w.y < x - diagonal && p.same (x - 1) (x - 1 - diagonal) then
      p.slideBack w diagonal fuel (x - 1)
    else x

/-- How far a search has come on each diagonal, and the diagonals that it has come to. -/
structure Front where
  reached : Array Int
  low : Int
  high : Int

/-- The place that a search has reached on a diagonal; `shift` is added to the numbers of
diagonals. -/
def Front.at (f : Front) (shift : Int) (d : Int) : Int :=
  (f.reached[(d + shift).toNat]?).getD 0

/-- Notes a place on a diagonal. -/
def Front.set (f : Front) (shift : Int) (d x : Int) : Front :=
  { f with reached := f.reached.setIfInBounds (d + shift).toNat x }

/-- Takes in a further diagonal on both sides, or leaves one out where there are no more; `far` is
the place from which nothing is reached. -/
def Front.widen (f : Front) (shift least most far : Int) : Front :=
  let f := if least < f.low then ({ f with low := f.low - 1 }).set shift (f.low - 2) far
    else { f with low := f.low + 1 }
  if f.high < most then ({ f with high := f.high + 1 }).set shift (f.high + 2) far
  else { f with high := f.high - 1 }

/-- The diagonals of a search, every second one, from the highest on. -/
def Front.diagonals (f : Front) : List Int :=
  if f.high < f.low then []
  else (List.range ((f.high - f.low).toNat / 2 + 1)).map fun (i : Nat) => f.high - 2 * (i : Int)

/-- Goes on with the search from the beginning; the place where it meets the other one, if it
does. -/
def Pair.forward (p : Pair) (w : Window) (shift : Int) (odd : Bool) (back : Front) :
    Front → List Int → Front × Option (Int × Int)
  | f, [] => (f, none)
  | f, d :: rest =>
    let low := f.at shift (d - 1)
    let high := f.at shift (d + 1)
    let start := if low < high then high else low + 1
    let x := p.slide w d (w.xEnd - start).toNat start
    let f := f.set shift d x
    if odd && back.low ≤ d && d ≤ back.high && back.at shift d ≤ x then (f, some (x, x - d))
    else p.forward w shift odd back f rest

/-- Goes on with the search from the end; the place where it meets the other one, if it does. -/
def Pair.backward (p : Pair) (w : Window) (shift : Int) (odd : Bool) (front : Front) :
    Front → List Int → Front × Option (Int × Int)
  | f, [] => (f, none)
  | f, d :: rest =>
    let low := f.at shift (d - 1)
    let high := f.at shift (d + 1)
    let start := if low < high then low else high - 1
    let x := p.slideBack w d (start - w.x).toNat start
    let f := f.set shift d x
    if !odd && front.low ≤ d && d ≤ front.high && x ≤ front.at shift d then (f, some (x, x - d))
    else p.backward w shift odd front f rest

/-- The place where the searches from both ends meet, after so many steps at most. -/
def Pair.meet (p : Pair) (w : Window) (shift : Int) :
    (fuel : Nat) → (front back : Front) → Int × Int
  | 0, _, _ => (w.xEnd, w.y)
  | fuel + 1, front, back =>
    let least := w.x - w.yEnd
    let most := w.xEnd - w.y
    let odd := ((w.x - w.y) - (w.xEnd - w.yEnd)) % 2 ≠ 0
    let front := front.widen shift least most (-1)
    match p.forward w shift odd back front front.diagonals with
    | (_, some place) => place
    | (front, none) =>
      let back := back.widen shift least most (w.xEnd + w.yEnd + 1)
      match p.backward w shift odd front back back.diagonals with
      | (_, some place) => place
      | (back, none) => p.meet w shift fuel front back

/-- Which things are changed, in the left and in the right sequence. -/
structure Changed where
  left : Array Bool
  right : Array Bool

/-- Notes things as changed from one place to another one. -/
def markFrom (a : Array Bool) (first stop : Int) : Array Bool :=
  (List.range (stop - first).toNat).foldl
    (fun a i => a.setIfInBounds (first.toNat + i) true) a

/-- Finds what is changed in a part; with so many cuts at most one in the other. -/
def Pair.compare (p : Pair) : (fuel : Nat) → Window → Changed → Changed
  | 0, _, c => c
  | fuel + 1, w, c =>
    let x := p.slide w (w.x - w.y) (w.xEnd - w.x).toNat w.x
    let w := { w with x, y := w.y + (x - w.x) }
    let xEnd := p.slideBack w (w.xEnd - w.yEnd) (w.xEnd - w.x).toNat w.xEnd
    let w := { w with xEnd, yEnd := w.yEnd - (w.xEnd - xEnd) }
    if w.x = w.xEnd then { c with right := markFrom c.right w.y w.yEnd }
    else if w.y = w.yEnd then { c with left := markFrom c.left w.x w.xEnd }
    else
      let shift : Int := p.right.size + 2
      let blank := Array.replicate (p.left.size + p.right.size + 5) (0 : Int)
      let front : Front := { reached := blank, low := w.x - w.y, high := w.x - w.y }
      let back : Front := { reached := blank, low := w.xEnd - w.yEnd, high := w.xEnd - w.yEnd }
      let steps := p.left.size + p.right.size + 1
      let (x, y) := p.meet w shift steps (front.set shift (w.x - w.y) w.x)
        (back.set shift (w.xEnd - w.yEnd) w.xEnd)
      p.compare fuel { w with x, y } (p.compare fuel { w with xEnd := x, yEnd := y } c)

/-! ## Moving changes -/

/-- A run of changes that is moved: the things and which of them are changed, also in the other
sequence, where the run begins and ends, and the place in the other sequence. -/
structure Moving where
  things : Array Nat
  changed : Array Bool
  other : Array Bool
  start : Nat
  stop : Nat
  place : Nat
  /-- The last end of the run at which changes stand at the place in the other sequence. -/
  fitting : Nat

/-- Whether the thing at a place is changed. -/
def isSet (a : Array Bool) (i : Nat) : Bool :=
  (a[i]?).getD false

/-- The first place from one on where nothing is changed. -/
def pastRun (a : Array Bool) : (fuel : Nat) → (i : Nat) → Nat
  | 0, i => i
  | fuel + 1, i => if isSet a i then pastRun a fuel (i + 1) else i

/-- The first place of the run of changes in front of a place. -/
def runStart (a : Array Bool) : (i : Nat) → Nat
  | 0 => 0
  | i + 1 => if isSet a i then runStart a i else i + 1

/-- The last place in front of one where nothing is changed. -/
def placeBefore (other : Array Bool) : (place : Nat) → Nat
  | 0 => 0
  | place + 1 => if isSet other place then placeBefore other place else place

/-- Moves a run back by one thing; it takes in a run in front of it. -/
def Moving.back (m : Moving) : Moving :=
  let changed := (m.changed.setIfInBounds (m.start - 1) true).setIfInBounds (m.stop - 1) false
  { m with
    changed
    start := runStart changed (m.start - 1)
    stop := m.stop - 1
    place := placeBefore m.other m.place }

/-- Moves a run back as long as the thing in front of it is the same as its last one. -/
def Moving.allBack : (fuel : Nat) → Moving → Moving
  | 0, m => m
  | fuel + 1, m =>
    if m.start > 0 && m.things[m.start - 1]? = m.things[m.stop - 1]? then m.back.allBack fuel else m

/-- Moves a run on as long as the thing behind it is the same as its first one; it takes in runs
behind it. -/
def Moving.allOn : (fuel : Nat) → Moving → Moving
  | 0, m => m
  | fuel + 1, m =>
    if m.stop < m.things.size && m.things[m.start]? = m.things[m.stop]? then
      let changed := (m.changed.setIfInBounds m.start false).setIfInBounds m.stop true
      let stop := pastRun changed changed.size (m.stop + 1)
      let place := pastRun m.other m.other.size (m.place + 1)
      let fitting := if place > m.place + 1 then stop else m.fitting
      ({ m with changed, start := m.start + 1, stop, place, fitting } : Moving).allOn fuel
    else m

/-- Moves a run back and on again until it does not grow any more. -/
def Moving.settle : (fuel : Nat) → Moving → Moving
  | 0, m => m
  | fuel + 1, m =>
    let length := m.stop - m.start
    let m := m.allBack m.things.size
    let fitting := if m.place > 0 && isSet m.other (m.place - 1) then m.stop else m.things.size
    let m := ({ m with fitting } : Moving).allOn m.things.size
    if m.stop - m.start = length then m else m.settle fuel

/-- Moves a run back to where it stands next to changes in the other sequence. -/
def Moving.fit : (fuel : Nat) → Moving → Moving
  | 0, m => m
  | fuel + 1, m => if m.fitting < m.stop then m.back.fit fuel else m

/-- Moves all runs of changes from a place on; `place` is that in the other sequence. -/
def moveRuns (things : Array Nat) (other : Array Bool) :
    (fuel : Nat) → (changed : Array Bool) → (i place : Nat) → Array Bool
  | 0, changed, _, _ => changed
  | fuel + 1, changed, i, place =>
    if things.size ≤ i then changed
    else if !isSet changed i then
      moveRuns things other fuel changed (i + 1) (pastRun other other.size place + 1)
    else
      let stop := pastRun changed changed.size i
      let place := pastRun other other.size place
      let m : Moving := { things, changed, other, start := i, stop, place, fitting := 0 }
      let m := m.settle (things.size + 1)
      let m := m.fit things.size
      moveRuns things other fuel m.changed m.stop m.place

/-! ## Hunks -/

/-- A change: from one place to another one of the left sequence, in whose stead there is a part of
the right one. -/
structure Hunk where
  left : Nat
  leftEnd : Nat
  right : Nat
  rightEnd : Nat

/-- The changes from two places on. -/
def hunksFrom (c : Changed) : (fuel : Nat) → (x y : Nat) → List Hunk
  | 0, _, _ => []
  | fuel + 1, x, y =>
    if c.left.size ≤ x && c.right.size ≤ y then []
    else
      let xEnd := pastRun c.left c.left.size x
      let yEnd := pastRun c.right c.right.size y
      if xEnd = x && yEnd = y then hunksFrom c fuel (x + 1) (y + 1)
      else ⟨x, xEnd, y, yEnd⟩ :: hunksFrom c fuel xEnd yEnd

/-- A sequence without the things that are not in another one, and the places of the others. -/
def known (a b : Array Nat) : Array (Nat × Nat) :=
  let there : Std.HashMap Nat Unit := b.foldl (fun m n => m.insert n ()) {}
  (a.toList.zipIdx.filter fun t => there.contains t.1).toArray

/-- Which things are changed, found among those that are in both sequences; the others are changed
anyway. -/
def changedOf (left right : Array Nat) : Changed :=
  let ls := known left right
  let rs := known right left
  let p : Pair := { left := ls.map Prod.fst, right := rs.map Prod.fst }
  let blank : Changed :=
    { left := Array.replicate ls.size false, right := Array.replicate rs.size false }
  let w : Window := { x := 0, xEnd := ls.size, y := 0, yEnd := rs.size }
  let c := p.compare (ls.size + rs.size + 2) w blank
  let spread (size : Nat) (places : Array (Nat × Nat)) (marks : Array Bool) : Array Bool :=
    (places.zip marks).foldl (fun a (t, set) => a.setIfInBounds t.2 set)
      (Array.replicate size true)
  { left := spread left.size ls c.left, right := spread right.size rs c.right }

/-- How many things two lists have in common in front, except for so many of them. -/
def commonFront (kept : Nat) (a b : List Nat) : Nat :=
  ((a.zip b).takeWhile fun t => t.1 = t.2).length - kept

/-- The changes that make one sequence of another; so many things around the first and the last one
are looked at besides. -/
def hunks (around : Nat) (left right : List Nat) : List Hunk :=
  let common := commonFront 0 left right
  let front := common - around
  let behind := commonFront around (left.drop common).reverse (right.drop common).reverse
  let cut (s : List Nat) : Array Nat := ((s.drop front).take (s.length - front - behind)).toArray
  let l := cut left
  let r := cut right
  let c := changedOf l r
  let size := l.size + r.size + 1
  let cl := moveRuns l c.right size c.left 0 0
  let cr := moveRuns r cl size c.right 0 0
  (hunksFrom { left := cl, right := cr } size 0 0).map fun h =>
    ⟨h.left + front, h.leftEnd + front, h.right + front, h.rightEnd + front⟩

end Assay.Compare
