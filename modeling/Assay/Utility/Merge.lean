import Assay.Utility.Sort

/-!
# Comparing sorted files

`comm` tells which lines are in the first of two sorted files only, in the second only, and in both,
each in a column of its own. Lines out of order are reported once it matters, or at once on demand.
-/

namespace Assay.Shell

open Machine Host

/-- One of the files that are compared: the lines to come, and those before, the last one first. -/
structure Sorted where
  lines : List (List UInt8)
  before : List (List UInt8) := []
  /-- Whether it has been reported that the lines are out of order. -/
  reported : Bool := false

/-- The file behind its next line. -/
def Sorted.next (s : Sorted) : Sorted :=
  { s with lines := s.lines.tail, before := s.lines.take 1 ++ s.before.take 1 }

/-- Whether the line that has just been come to, or the last one of all, is smaller than the one in
front of it. -/
def Sorted.isDisordered (s : Sorted) : Bool :=
  match s.lines, s.before with
  | line :: _, b :: _ => compareOctets b line == .gt
  | [], [b, a] => compareOctets a b == .gt
  | _, _ => false

/-- How lines are told. -/
structure Telling where
  /-- The columns that are printed. -/
  columns : List Nat
  mark : List UInt8 := [9]
  finish : UInt8 := 10
  /-- Whether the order of lines is looked at in each case, in no case, or when it matters. -/
  checked : Option Bool := none

/-- A line in its column. -/
def Telling.line (t : Telling) (column : Nat) (line : List UInt8) : List UInt8 :=
  if t.columns.contains column then
    ((t.columns.filter (· < column)).flatMap fun _ => t.mark) ++ line ++ [t.finish]
  else []

/-- Looks at the order of a file behind a line that was taken from it; whether to go on. -/
def Telling.look (t : Telling) (unpaired : Bool) (number : Nat) (s : Sorted) :
    Eval (Sorted × Bool) := do
  let looks := t.checked.getD unpaired
  if looks && !s.reported && s.isDisordered then
    complain ("comm: file " ++ toString number ++ " is not in sorted order")
    return ({ s with reported := true }, t.checked != some true)
  else return (s, true)

/-- Tells which lines are where; the numbers of lines in each column, and whether the files were in
order. -/
def Telling.tell (t : Telling) : (fuel : Nat) → (unpaired : Bool) → (counts : List Nat) →
    Sorted → Sorted → Eval (List Nat × Bool)
  | 0, _, counts, a, b => return (counts, !a.reported && !b.reported)
  | fuel + 1, unpaired, counts, a, b => do
    let order := match a.lines, b.lines with
      | [], [] => none
      | x :: _, [] => some (Ordering.lt, 1, x)
      | [], y :: _ => some (Ordering.gt, 2, y)
      | x :: _, y :: _ =>
        match compareOctets x y with
        | .lt => some (.lt, 1, x)
        | .eq => some (.eq, 3, y)
        | .gt => some (.gt, 2, y)
    match order with
    | none => return (counts, !a.reported && !b.reported)
    | some (order, column, line) =>
      printBytes (t.line column line)
      let counts := counts.mapIdx fun i n => if i + 1 = column then n + 1 else n
      let unpaired := unpaired || order != .eq
      let (a, goesOn) ← if order != .gt then t.look unpaired 1 a.next else pure (a, true)
      if !goesOn then return (counts, false)
      let (b, goesOn) ← if order != .lt then t.look unpaired 2 b.next else pure (b, true)
      if !goesOn then return (counts, false)
      t.tell fuel unpaired counts a b

/-- `comm` tells which lines two sorted files have in common. -/
def comm : Utility :=
  withOptions "comm" "123zNCT" "O" 1
    (fun o => do
      match o.operands with
      | [] =>
        misused "comm" "missing operand"
        return 1
      | [path] =>
        misused "comm" ("missing operand after " ++ quotedName path)
        return 1
      | _ :: _ :: extra :: _ =>
        misused "comm" ("extra operand " ++ quotedName extra)
        return 1
      | [first, second] =>
        let finish : UInt8 := if o.has 'z' then 0 else 10
        let mut files : List Sorted := []
        for path in [first, second] do
          match ← readWhole path with
          | .ok bytes => files := files ++ [{ lines := linesEndedBy finish bytes.toList }]
          | .error fault =>
            unreadable "comm" path fault
            throw (Stop.exit 1)
        let t : Telling := {
          columns := ([('1', 1), ('2', 2), ('3', 3)].filter fun c => !o.has c.1).map Prod.snd
          mark := ((o.value? 'O').map textBytes).getD [9]
          finish
          checked := if o.has 'C' then some true else if o.has 'N' then some false else none }
        let a := files.headD { lines := [] }
        let b := (files.tail).headD { lines := [] }
        let (counts, ordered) ← t.tell (a.lines.length + b.lines.length) false [0, 0, 0] a b
        if !ordered && o.has 'C' then return 1
        if o.has 'T' then
          printBytes (t.mark.intercalate
            (counts.map (textBytes ∘ toString) ++ [textBytes "total"]) ++ [finish])
        if ordered then return 0
        complain "comm: input is not in sorted order"
        return 1)
    [("output-delimiter", 'O'), ("total", 'T'), ("zero-terminated", 'z'), ("check-order", 'C'),
      ("nocheck-order", 'N')]

end Assay.Shell
