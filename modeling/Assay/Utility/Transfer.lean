import Assay.Utility.Make

/-!
# Transferring blocks

`dd` copies blocks of octets from a file to another one, from places and up to a number that its
operands say.
-/

namespace Assay.Shell

open Machine Host

/-- What operands say about a transfer, by their names. -/
abbrev Transfer := List (String × String)

/-- A number of octets, which may be a product. -/
def octetProduct? (s : String) : Option Nat :=
  ((Text.splitAt 'x' s.toList).mapM fun f => octetCount? (String.ofList f)).map fun fs =>
    fs.foldl (· * ·) 1

/-- A number that an operand says. -/
def Transfer.number (t : Transfer) (name : String) (default : Nat) : Except String Nat :=
  match t.lookup name with
  | none => .ok default
  | some v =>
    match octetProduct? v with
    | some n => .ok n
    | none => .error ("invalid number: " ++ quotedName v)

/-- The operands that there are. -/
def transferNames : List String :=
  ["if", "of", "bs", "ibs", "obs", "cbs", "count", "skip", "seek", "iseek", "oseek", "conv",
    "status", "iflag", "oflag"]

/-- The words that an operand lists. -/
def Transfer.words (t : Transfer) (name : String) : List String :=
  (Text.splitAt ',' ((t.lookup name).getD "").toList).map String.ofList

/-- Octets as conversions change them. -/
def converted (conversions : List String) (bytes : List UInt8) : List UInt8 :=
  let change (b : UInt8) : UInt8 :=
    if conversions.contains "ucase" && 97 ≤ b && b ≤ 122 then b - 32
    else if conversions.contains "lcase" && 65 ≤ b && b ≤ 90 then b + 32 else b
  let rec swapped : List UInt8 → List UInt8
    | a :: b :: rest => b :: a :: swapped rest
    | rest => rest
  let bytes := bytes.map change
  if conversions.contains "swab" then swapped bytes else bytes

/-- How many whole blocks there are, and how many that are not whole. -/
def blocksOf (size total : Nat) : String :=
  toString (total / size) ++ "+" ++ (if total % size = 0 then "0" else "1")

/-- Tells how much was read and written. -/
def Transfer.report (t : Transfer) (input output taken given : Nat) : Eval Unit := do
  let status := t.lookup "status"
  if status ≠ some "none" then
    complain (blocksOf input taken ++ " records in")
    complain (blocksOf output given ++ " records out")
    if status ≠ some "noxfer" then
      complain (toString given ++ (if given = 1 then " byte" else " bytes") ++
        " copied, 0.001 s, " ++ toString given ++ " kB/s")

/-- Carries out a transfer. -/
def Transfer.perform (t : Transfer) : Eval Nat := do
  let refuse (message : String) : Eval Nat := do
    complain ("dd: " ++ message)
    return 1
  let numbers : Except String (Nat × Nat × Nat × Nat × Option Nat) := do
    let block ← t.number "bs" 512
    let input ← t.number "ibs" block
    let output ← t.number "obs" block
    let (input, output) := if (t.lookup "bs").isSome then (block, block) else (input, output)
    let skip ← t.number (if (t.lookup "iseek").isSome then "iseek" else "skip") 0
    let seek ← t.number (if (t.lookup "oseek").isSome then "oseek" else "seek") 0
    let count ← match t.lookup "count" with
      | none => pure none
      | some _ => some <$> t.number "count" 0
    if input = 0 || output = 0 then
      throw ("invalid number: " ++ quotedName ((t.lookup "bs").getD "0"))
    return (input, output, skip, seek, count)
  match numbers with
  | .error message => refuse message
  | .ok (input, output, skip, seek, count) =>
    let unit (flags : String) (block : Nat) (flag : String) : Nat :=
      if (t.words flags).contains flag then 1 else block
    let skipped := skip * unit "iflag" input "skip_bytes"
    let sought := seek * unit "oflag" output "seek_bytes"
    let limit := count.map fun n => n * unit "iflag" input "count_bytes"
    let path := (t.lookup "if").getD "-"
    let conversions := t.words "conv"
    let there := match t.lookup "if" with
      | some path => partOf true path
      | none => pure (.error .missing)
    let named : Bool := (t.lookup "if").isSome
    match ← there, named with
    | .error fault, true =>
      refuse ("failed to open " ++ quotedName path ++ ": " ++ fault.words)
    | _, _ =>
      match ← readOperand (limit.map (skipped + ·)) path with
      | .error .isDirectory =>
        complain ("dd: error reading " ++ quotedName path ++ ": " ++ Fault.isDirectory.words)
        t.report input output 0 0
        return 1
      | .error fault => refuse ("failed to open " ++ quotedName path ++ ": " ++ fault.words)
      | .ok bytes =>
        if limit.isNone then refuseHunger
        let part := bytes.toList.drop skipped
        let taken := converted conversions (limit.elim part part.take)
        let padded := if conversions.contains "sync" then
          taken ++ List.replicate ((input - taken.length % input) % input) 0 else taken
        let keeps := conversions.contains "notrunc"
        let failed ← match t.lookup "of" with
          | none =>
            printBytes padded
            pure none
          | some target =>
            let before ← match ← partOf true target with
              | .ok (_, .file _ c) => pure c
              | _ => pure ⟨#[]⟩
            let front := withLength before sought
            let behind := if keeps then before.extract (sought + padded.length) before.size
              else ⟨#[]⟩
            let isNew := (← partOf true target).toOption.isNone
            if isNew && conversions.contains "nocreat" then pure (some Fault.missing)
            else if !isNew && conversions.contains "excl" then pure (some .alreadyThere)
            else match ← partOf true target with
              | .ok (_, .device _) => writeFile target ⟨padded.toArray⟩
              | _ => writeFile target (front ++ ⟨padded.toArray⟩ ++ behind)
        match failed with
        | some .noSpace =>
          complain ("dd: error writing " ++ quotedName ((t.lookup "of").getD "") ++ ": " ++
            Fault.noSpace.words)
          t.report input output taken.length 0
          return 1
        | some fault =>
          refuse ("failed to open " ++ quotedName ((t.lookup "of").getD "") ++ ": " ++ fault.words)
        | none =>
          t.report input output taken.length padded.length
          return 0

/-- `dd` copies blocks of octets. -/
def dd : Utility := fun args => do
  let wrong := (withoutMark args).find? fun a =>
    !transferNames.contains (String.ofList (a.toList.takeWhile (· ≠ '='))) || !a.toList.contains '='
  match wrong with
  | some a =>
    if a.startsWith "--" then
      misused "dd" ("unrecognized option '" ++ a ++ "'")
    else if a.startsWith "-" && a ≠ "-" then
      misused "dd" ("invalid option -- '" ++ String.ofList ((a.toList.drop 1).take 1) ++ "'")
    else misused "dd" ("unrecognized operand " ++ quotedName a)
    return 1
  | none =>
    let t : Transfer := ((withoutMark args).map fun a =>
      let name := a.toList.takeWhile (· ≠ '=')
      (String.ofList name, String.ofList (a.toList.drop (name.length + 1)))).reverse
    t.perform

end Assay.Shell
