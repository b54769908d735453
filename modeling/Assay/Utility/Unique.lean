import Assay.Utility.Sort

/-!
# Lines that repeat

`uniq` finds lines that follow each other and are equal, and prints one of them, how many there are,
all of them, or those that are alone.
-/

namespace Assay.Shell

open Machine Host

/-- What is compared of a line: what is behind some fields and octets, and not more than so much of
it. -/
structure LinePart where
  fields : Nat := 0
  octets : Nat := 0
  width : Option Nat := none
  folded : Bool := false

/-- The part of a line that is compared. -/
def LinePart.of (p : LinePart) (line : List UInt8) : List UInt8 :=
  let rest := (afterFields none p.fields line).drop p.octets
  let rest := match p.width with
    | some n => rest.take n
    | none => rest
  if p.folded then rest.map capitalByte else rest

/-- Lines in groups of those that follow each other and are equal. -/
def groupLines (p : LinePart) : List (List UInt8) → List (List (List UInt8))
  | [] => []
  | a :: rest =>
    match groupLines p rest with
    | (b :: bs) :: groups =>
      if p.of a = p.of b then (a :: b :: bs) :: groups else [a] :: (b :: bs) :: groups
    | groups => [a] :: groups

/-- The numbers of the options of `uniq`; an error is a message. -/
def linePartOf (o : Options) : Except String LinePart := do
  let number (c : Char) (what : String) : Except String (Option Nat) :=
    match o.value? c with
    | none => .ok none
    | some v =>
      match naturalNumber? v with
      | some n => .ok (some n)
      | none => .error (v ++ ": invalid number of " ++ what)
  return {
    fields := (← number 'f' "fields to skip").getD 0
    octets := (← number 's' "bytes to skip").getD 0
    width := ← number 'w' "bytes to compare"
    folded := o.has 'i' }

/-- The lines that are printed of groups. -/
def uniqueLines (o : Options) (groups : List (List (List UInt8))) : List (List UInt8) :=
  let separate := (o.value? 'D').getD "none"
  let sets (gs : List (List (List UInt8))) (mode : String) : List (List UInt8) :=
    let gap : List (List UInt8) := [[]]
    let joined := gap.intercalate gs
    if gs.isEmpty then []
    else if mode = "prepend" then [] :: joined
    else if mode = "append" then joined ++ [[]]
    else if mode = "both" then [] :: joined ++ [[]]
    else if mode = "separate" then joined
    else gs.flatten
  if o.has 'G' then
    sets groups (match o.value? 'G' with
      | some "" | none => "separate"
      | some v => v)
  else if o.has 'D' then
    sets (groups.filter fun g => g.length > 1 && !o.has 'u')
      (if separate.isEmpty then "none" else separate)
  else
    let chosen := groups.filter fun g =>
      (!o.has 'd' || g.length > 1) && (!o.has 'u' || g.length = 1)
    chosen.filterMap fun g => g.head?.map fun l =>
      if o.has 'c' then (padLeft 7 (toString g.length) ++ " ").toUTF8.toList ++ l else l

/-- `uniq` prints lines without those that repeat. -/
def uniq : Utility :=
  withOptions "uniq" "cdDuizG" "fswDG" 1
    (fun o => do
      match linePartOf o, o.operands with
      | .error message, _ =>
        complain ("uniq: " ++ message)
        return 1
      | _, _ :: _ :: extra :: _ =>
        misused "uniq" ("extra operand " ++ quotedName extra)
        return 1
      | .ok p, operands =>
        if o.has 'c' && o.has 'D' then
          misused "uniq" "printing all duplicated lines and repeat counts is meaningless"
          return 1
        if o.has 'G' && (o.has 'c' || o.has 'd' || o.has 'D' || o.has 'u') then
          misused "uniq" "--group is mutually exclusive with -c/-d/-D/-u"
          return 1
        let path := operands.head?.getD "-"
        match ← readWhole path with
        | .error fault =>
          if fault = .isDirectory then
            complain ("uniq: error reading " ++ quotedName path ++ ": " ++ fault.words)
          else unreadable "uniq" path fault
          return 1
        | .ok bytes =>
          let finish : UInt8 := if o.has 'z' then 0 else 10
          let lines := uniqueLines o (groupLines p (linesEndedBy finish bytes.toList))
          let result := lines.flatMap (· ++ [finish])
          match operands.tail with
          | target :: _ =>
            match ← writeFile target ⟨result.toArray⟩ with
            | none => return 0
            | some fault =>
              unreadable "uniq" target fault
              return 1
          | [] =>
            printBytes result
            return 0)
    [("count", 'c'), ("repeated", 'd'), ("all-repeated", 'D'), ("group", 'G'), ("unique", 'u'),
      ("ignore-case", 'i'), ("skip-fields", 'f'), ("skip-chars", 's'), ("check-chars", 'w'),
      ("zero-terminated", 'z')]

end Assay.Shell
