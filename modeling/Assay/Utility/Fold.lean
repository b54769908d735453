import Assay.Utility.Basic

/-!
# Width of lines

`fold` breaks lines that are too wide, and `expand` puts blanks in the place of tabs. Both count the
columns that octets take.
-/

namespace Assay.Shell

/-- The column behind an octet. -/
def columnBehind (column : Nat) (b : UInt8) : Nat :=
  match b.toNat with
  | 8 => column - 1
  | 9 => (column / 8 + 1) * 8
  | 13 => 0
  | _ => column + 1

/-! ## Breaking lines -/

/-- How lines are broken. -/
structure Folding where
  width : Nat
  /-- Whether each octet counts as one column. -/
  octets : Bool := false
  /-- Whether lines are broken behind blanks if they have any. -/
  atBlanks : Bool := false

/-- What is printed already and the line that is being filled, both with the last octet first, and
the column at which the line ends. -/
structure Folded where
  done : List UInt8 := []
  line : List UInt8 := []
  column : Nat := 0

/-- The column behind an octet. -/
def Folding.behind (f : Folding) (column : Nat) (b : UInt8) : Nat :=
  if f.octets then column + 1 else columnBehind column b

/-- Puts an octet behind a line, which is broken first if it would be too wide; it can be broken so
many times. -/
def Folding.put (f : Folding) (b : UInt8) : (fuel : Nat) → Folded → Folded
  | 0, s => s
  | fuel + 1, s =>
    let column := f.behind s.column b
    if b = 10 then { done := 10 :: (s.line ++ s.done) }
    else if column ≤ f.width || s.line.isEmpty then { s with line := b :: s.line, column }
    else
      let tail := if f.atBlanks then s.line.takeWhile (fun b => b ≠ 32 && b ≠ 9) else []
      let tail := if tail.length = s.line.length then [] else tail
      let front := s.line.drop tail.length
      f.put b fuel {
        done := 10 :: (front ++ s.done)
        line := tail
        column := tail.reverse.foldl f.behind 0 }

/-- Octets with their lines broken. -/
def Folding.apply (f : Folding) (bytes : List UInt8) : List UInt8 :=
  let s := bytes.foldl (fun s b => f.put b (s.line.length + 2) s) {}
  (s.line ++ s.done).reverse

/-- Arguments of which those that are a sign and a number become an option with the number. -/
def withNumberOption (letter : Char) (args : List String) : List String :=
  args.map fun arg =>
    match arg.toList with
    | '-' :: ds =>
      if (naturalNumber? (String.ofList ds)).isSome then
        "-" ++ String.singleton letter ++ String.ofList ds
      else arg
    | _ => arg

/-- `fold` breaks lines that are too wide. -/
def fold : Utility := fun args =>
  withOptions "fold" "bsc" "w" 1
    (fun o => do
      let text := (o.value? 'w').getD "80"
      match naturalNumber? text with
      | none =>
        complain ("fold: invalid number of columns: " ++ quotedName text)
        return 1
      | some 0 =>
        complain ("fold: invalid number of columns: " ++ quotedName text ++
          ": Numerical result out of range")
        return 1
      | some width =>
        let f : Folding := { width, octets := o.has 'b', atBlanks := o.has 's' }
        forOperands (fun path => do
          match ← readWhole path with
          | .ok bytes =>
            printBytes (f.apply bytes.toList)
            return true
          | .error fault =>
            unreadable "fold" path fault
            return false) (orInput o.operands))
    [("bytes", 'b'), ("spaces", 's'), ("width", 'w')] (withNumberOption 'w' args)

/-! ## Tabs -/

/-- Where tabs lead to: the multiples of a number, or the columns of a list. -/
inductive TabStops where
  | every (width : Nat)
  | places (columns : List Nat)

/-- The column to which a tab leads. -/
def TabStops.after (t : TabStops) (column : Nat) : Nat :=
  match t with
  | .every width => (column / max 1 width + 1) * max 1 width
  | .places columns => (columns.find? (column < ·)).getD (column + 1)

/-- The tab stops that a list writes; an error is a message. -/
def tabStops (text : String) : Except String TabStops := do
  let isMark (c : Char) : Bool := c = ',' || c = ' ' || c = '\t'
  let parts := (Text.splitAt ',' (text.toList.map fun c => if isMark c then ',' else c)).filter
    (!·.isEmpty)
  let columns ← parts.mapM fun part =>
    match naturalNumber? (String.ofList part) with
    | some n => .ok n
    | none =>
      .error ("tab size contains invalid character(s): " ++
        quotedName (String.ofList (part.dropWhile Char.isDigit)))
  if columns.contains 0 then throw "tab size cannot be 0"
  if (columns.zip columns.tail).any fun (a, b) => b ≤ a then throw "tab sizes must be ascending"
  return match columns with
    | [] => .every 8
    | [width] => .every width
    | columns => .places columns

/-- Octets with blanks in the place of tabs; `initial` says that only those in front of the text of
a line are meant, and `front` that nothing else was in front. -/
def expanded (t : TabStops) (initial : Bool) :
    (column : Nat) → (front : Bool) → List UInt8 → List UInt8
  | _, _, [] => []
  | column, front, b :: rest =>
    if b = 10 then b :: expanded t initial 0 true rest
    else if initial && !front then b :: expanded t initial column front rest
    else if b = 9 then
      let next := t.after column
      List.replicate (next - column) 32 ++ expanded t initial next front rest
    else b :: expanded t initial (if b = 8 then column - 1 else column + 1) (front && b = 32) rest

/-- `expand` puts blanks in the place of tabs. -/
def expand : Utility := fun args =>
  withOptions "expand" "i" "t" 1
    (fun o => do
      match tabStops ((o.value? 't').getD "8") with
      | .error message =>
        complain ("expand: " ++ message)
        return 1
      | .ok stops =>
        forOperands (fun path => do
          match ← readWhole path with
          | .ok bytes =>
            printBytes (expanded stops (o.has 'i') 0 true bytes.toList)
            return true
          | .error fault =>
            unreadable "expand" path fault
            return false) (orInput o.operands))
    [("initial", 'i'), ("tabs", 't')] (withNumberOption 't' args)

end Assay.Shell
