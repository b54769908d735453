import Assay.Number.Notation
import Assay.Utility.Change

/-!
# Sorting lines

`sort` puts lines in an order: that of whole lines, or of keys, which are parts of lines from one
field to another. Each key is compared in a way of its own. Lines whose keys are equal are compared
as a whole, unless they are to stay as they come.
-/

namespace Assay.Shell

open Machine Host

/-- How keys are compared. -/
structure KeyOrder where
  /-- Whether blanks in front do not belong to the beginning of a key, and to its end. -/
  bareStart : Bool := false
  bareStop : Bool := false
  /-- Whether other characters than letters, digits and blanks do not count. -/
  dictionary : Bool := false
  /-- Whether characters that are not printed do not count. -/
  printable : Bool := false
  folded : Bool := false
  /-- The letter of what keys are taken for, if not for texts. -/
  kind : Option Char := none
  reversed : Bool := false
deriving DecidableEq

/-- A key: the field and octet at which it begins, and the field and octet at which it ends. -/
structure SortKey where
  startField : Nat := 0
  startOctet : Nat := 0
  stopField : Option Nat := none
  stopOctet : Nat := 0
  order : KeyOrder := {}

/-- Whether an octet is a blank between fields. -/
def isFieldBlank (b : UInt8) : Bool :=
  b = 32 || b = 9 || b = 10

/-- What is behind some fields. -/
def afterFields (mark : Option UInt8) : (count : Nat) → List UInt8 → List UInt8
  | 0, s => s
  | count + 1, s =>
    match mark with
    | some m => afterFields mark count ((s.dropWhile (· ≠ m)).drop 1)
    | none => afterFields mark count ((s.dropWhile isFieldBlank).dropWhile (!isFieldBlank ·))

/-- What is behind the last of some fields, without the mark that ends it. -/
def afterLastField (mark : Option UInt8) (count : Nat) (s : List UInt8) : List UInt8 :=
  match mark, count with
  | _, 0 => s
  | some m, n + 1 => (afterFields mark n s).dropWhile (· ≠ m)
  | none, n => afterFields none n s

/-- The part of a line that is a key. -/
def SortKey.part (k : SortKey) (mark : Option UInt8) (line : List UInt8) : List UInt8 :=
  let start := afterFields mark k.startField line
  let start := if k.order.bareStart then start.dropWhile isFieldBlank else start
  let start := start.drop k.startOctet
  match k.stopField with
  | none => start
  | some n =>
    let rest :=
      if k.stopOctet = 0 then afterLastField mark (n + 1) line
      else
        let front := afterFields mark n line
        let front := if k.order.bareStop then front.dropWhile isFieldBlank else front
        front.drop k.stopOctet
    start.take (start.length - rest.length)

/-- An order of two octet lists. -/
def compareOctets : List UInt8 → List UInt8 → Ordering
  | [], [] => .eq
  | [], _ :: _ => .lt
  | _ :: _, [] => .gt
  | a :: as, b :: bs => if a < b then .lt else if b < a then .gt else compareOctets as bs

/-- Whether an octet is a digit. -/
def isDigitByte (b : UInt8) : Bool :=
  48 ≤ b && b ≤ 57

/-- Whether an octet is a letter. -/
def isLetterByte (b : UInt8) : Bool :=
  (65 ≤ b && b ≤ 90) || (97 ≤ b && b ≤ 122)

/-- An octet as a capital letter. -/
def capitalByte (b : UInt8) : UInt8 :=
  if 97 ≤ b && b ≤ 122 then b - 32 else b

/-- The decimal number in front of octets: whether it is negative, its digits in front of the point
and behind it, and what follows. -/
def decimalParts (s : List UInt8) : Bool × List UInt8 × List UInt8 × List UInt8 :=
  let s := s.dropWhile isFieldBlank
  let (negative, s) := match s with
    | 45 :: rest => (true, rest)
    | rest => (false, rest)
  let front := s.takeWhile isDigitByte
  let rest := s.drop front.length
  let back := match rest with
    | 46 :: ds => ds.takeWhile isDigitByte
    | _ => []
  let rest := match rest with
    | 46 :: ds => ds.drop back.length
    | rest => rest
  (negative, front.dropWhile (· = 48), (back.reverse.dropWhile (· = 48)).reverse, rest)

/-- An order of two numbers without signs. -/
def compareSizes (front back front' back' : List UInt8) : Ordering :=
  if front.length ≠ front'.length then compare front.length front'.length
  else (compareOctets front front').then (compareOctets back back')

/-- An order of the numbers in front of octets. -/
def compareNumerals (a b : List UInt8) : Ordering :=
  let (negative, front, back, _) := decimalParts a
  let (negative', front', back', _) := decimalParts b
  let negative := negative && !(front.isEmpty && back.isEmpty)
  let negative' := negative' && !(front'.isEmpty && back'.isEmpty)
  match negative, negative' with
  | true, false => .lt
  | false, true => .gt
  | true, true => compareSizes front' back' front back
  | false, false => compareSizes front back front' back'

/-- The rank of the letter behind a number that stands for a power of a thousand. -/
def unitRank (s : List UInt8) : Nat :=
  let (_, front, back, rest) := decimalParts s
  if front.isEmpty && back.isEmpty then 0
  else match rest with
    | b :: _ => (("KMGTPEZYRQ".toList.findIdx? fun c => c.toNat = (capitalByte b).toNat).map
        (· + 1)).getD 0
    | [] => 0

/-- An order of the numbers in front of octets that have units. -/
def compareUnits (a b : List UInt8) : Ordering :=
  let rank (s : List UInt8) : Int :=
    let n : Int := unitRank s
    if (decimalParts s).1 then -n else n
  (compare (rank a) (rank b)).then (compareNumerals a b)

/-- The number of the month that octets begin with. -/
def monthNumber (s : List UInt8) : Nat :=
  let name := ((s.dropWhile isFieldBlank).take 3).map fun b => Char.ofNat (capitalByte b).toNat
  let months := ["JAN", "FEB", "MAR", "APR", "MAY", "JUN", "JUL", "AUG", "SEP", "OCT", "NOV",
    "DEC"]
  ((months.findIdx? (·.toList = name)).map (· + 1)).getD 0

/-- An order of the floating-point numbers in front of octets. What is no number comes first, and
then what is not even a number in writing. -/
def compareGeneral (a b : List UInt8) : Ordering :=
  let value (s : List UInt8) : Option Float :=
    (Number.Double.read? (s.map fun b => Char.ofNat b.toNat)).map fun (x, _) => Float.ofBits x.bits
  match value a, value b with
  | none, none => .eq
  | none, some _ => .lt
  | some _, none => .gt
  | some x, some y =>
    if x < y then .lt else if y < x then .gt else if x == y then .eq
    else if x.isNaN && y.isNaN then .eq else if x.isNaN then .lt else .gt

/-- The place of an octet among those of versions: a tilde in front of the end, then letters, then
the others. -/
def versionRank (b : UInt8) : Int :=
  if b = 126 then -2
  else if isLetterByte b then b.toNat
  else b.toNat + 256

/-- An order of parts of versions: of the octets in front of a number, of the number, and so on. -/
def compareVersionParts : (fuel : Nat) → List UInt8 → List UInt8 → Ordering
  | 0, _, _ => .eq
  | fuel + 1, a, b =>
    let front (s : List UInt8) : List UInt8 := s.takeWhile (!isDigitByte ·)
    let number (s : List UInt8) : List UInt8 :=
      ((s.drop (front s).length).takeWhile isDigitByte)
    let rec ranks (fuel : Nat) (x y : List UInt8) : Ordering :=
      match fuel, x, y with
      | 0, _, _ | _, [], [] => .eq
      | fuel + 1, x, y =>
        let rank (s : List UInt8) : Int := (s.head?.map versionRank).getD (-1)
        (compare (rank x) (rank y)).then (ranks fuel x.tail y.tail)
    let (fa, fb) := (front a, front b)
    let (na, nb) := (number a, number b)
    let digits (n : List UInt8) : List UInt8 := n.dropWhile (· = 48)
    let order := (ranks (fa.length + fb.length) fa fb).then
      (compareSizes (digits na) [] (digits nb) [])
    if a.isEmpty && b.isEmpty then .eq
    else order.then
      (compareVersionParts fuel (a.drop (fa.length + na.length)) (b.drop (fb.length + nb.length)))

/-- A name without the endings that a version may have. -/
def versionStem (s : List UInt8) : List UInt8 :=
  let rec go (fuel : Nat) (s : List UInt8) : List UInt8 :=
    match fuel with
    | 0 => s
    | fuel + 1 =>
      let ending := (s.reverse.takeWhile (· ≠ 46)).reverse
      let front := s.take (s.length - ending.length - 1)
      match ending with
      | b :: more =>
        if ending.length < s.length && (isLetterByte b || b = 126) &&
            more.all (fun b => isLetterByte b || isDigitByte b || b = 126) && !front.isEmpty
        then go fuel front else s
      | [] => s
  go s.length s

/-- An order of versions. -/
def compareVersions (a b : List UInt8) : Ordering :=
  let fuel := a.length + b.length + 1
  ((compareVersionParts fuel (versionStem a) (versionStem b)).then
    (compareVersionParts fuel a b)).then (compareOctets a b)

/-- An order of two keys. -/
def KeyOrder.compare (o : KeyOrder) (a b : List UInt8) : Ordering :=
  let counted (s : List UInt8) : List UInt8 :=
    let s := if o.dictionary then
        s.filter fun b => isLetterByte b || isDigitByte b || isFieldBlank b else s
    let s := if o.printable then s.filter fun b => 32 ≤ b && b < 127 else s
    if o.folded then s.map capitalByte else s
  let order := match o.kind with
    | some 'n' => compareNumerals a b
    | some 'g' => compareGeneral a b
    | some 'h' => compareUnits a b
    | some 'M' => Ord.compare (monthNumber a) (monthNumber b)
    | some 'V' => compareVersions a b
    | _ => compareOctets (counted a) (counted b)
  if o.reversed then order.swap else order

/-- How lines are sorted. -/
structure Sorting where
  keys : List SortKey := []
  mark : Option UInt8 := none
  /-- Whether lines with equal keys stay in their order. -/
  stable : Bool := false
  reversed : Bool := false

/-- An order of two lines by their keys. -/
def Sorting.byKeys (s : Sorting) (a b : List UInt8) : Ordering :=
  s.keys.foldl
    (fun order k => order.then (k.order.compare (k.part s.mark a) (k.part s.mark b))) .eq

/-- An order of two lines. -/
def Sorting.compare (s : Sorting) (a b : List UInt8) : Ordering :=
  let order := s.byKeys a b
  if s.stable then order
  else order.then (if s.reversed then compareOctets b a else compareOctets a b)

/-- Lines without those that are equal to the one in front. -/
def withoutEqual (same : List UInt8 → List UInt8 → Bool) :
    List (List UInt8) → List (List UInt8)
  | a :: b :: rest =>
    if same a b then withoutEqual same (a :: rest) else a :: withoutEqual same (b :: rest)
  | ls => ls
termination_by ls => ls.length

/-! ## Reading options -/

/-- An order changed by a letter. -/
def KeyOrder.set? (o : KeyOrder) (c : Char) (stop : Bool) : Option KeyOrder :=
  match c with
  | 'b' => some (if stop then { o with bareStop := true } else { o with bareStart := true })
  | 'd' => some { o with dictionary := true }
  | 'i' => some { o with printable := true }
  | 'f' => some { o with folded := true }
  | 'r' => some { o with reversed := true }
  | 'n' | 'g' | 'h' | 'M' | 'R' | 'V' => some { o with kind := some c }
  | _ => none

/-- The number in front of a text, and what is behind it. -/
def countIn (s : List Char) : Option (Nat × List Char) :=
  let ds := s.takeWhile Char.isDigit
  if ds.isEmpty then none
  else some (ds.foldl (fun n c => 10 * n + (c.toNat - 48)) 0, s.drop ds.length)

/-- The key that a text writes; an error is a message. -/
def sortKey (text : String) : Except String SortKey := do
  let bad {α : Type} (why : String) : Except String α :=
    throw (why ++ ": invalid field specification " ++ quotedName text)
  let number (why : String) (s : List Char) : Except String (Nat × List Char) :=
    match countIn s with
    | some r => .ok r
    | none =>
      .error (why ++ ": invalid count at start of " ++ quotedName (String.ofList s))
  let letters (stop : Bool) (o : KeyOrder) (s : List Char) : KeyOrder × List Char :=
    let ls := s.takeWhile fun c => (({} : KeyOrder).set? c false).isSome
    (ls.foldl (fun o c => (o.set? c stop).getD o) o, s.drop ls.length)
  let (field, rest) ← number "invalid number at field start" text.toList
  if field = 0 then bad "field number is zero"
  let (octet, rest) ← match rest with
    | '.' :: rest => do
      let (n, rest) ← number "invalid number after '.'" rest
      if n = 0 then bad "character offset is zero"
      pure (n - 1, rest)
    | rest => pure (0, rest)
  let (order, rest) := letters false {} rest
  let key : SortKey := { startField := field - 1, startOctet := octet, order }
  match rest with
  | [] => return key
  | ',' :: rest =>
    let (field, rest) ← number "invalid number after ','" rest
    if field = 0 then bad "field number is zero"
    let (octet, rest) ← match rest with
      | '.' :: rest => number "invalid number after '.'" rest
      | rest => pure (0, rest)
    let (order, rest) := letters true order rest
    if !rest.isEmpty then bad "stray character in field spec"
    return { key with stopField := some (field - 1), stopOctet := octet, order }
  | _ => bad "stray character in field spec"

/-- The mark between fields that an option gives; an error is a message. -/
def fieldMark? (o : Options) : Except String (Option UInt8) :=
  match o.value? 't' with
  | none => .ok none
  | some "\\0" => .ok (some 0)
  | some v =>
    match v.toUTF8.toList with
    | [] => .error "empty tab"
    | [b] => .ok (some b)
    | _ => .error ("multi-character tab " ++ quotedName v)

/-- What keys can be taken for, by names. -/
def sortKinds : List (String × Char) :=
  [("general-numeric", 'g'), ("human-numeric", 'h'), ("month", 'M'), ("numeric", 'n'),
    ("random", 'R'), ("version", 'V')]

/-- How options say that lines are sorted. -/
def sortingOf (o : Options) : Except String Sorting := do
  let mark ← fieldMark? o
  let kindOf (v : String) : Option Char := (sortKinds.find? (·.1 = v)).map Prod.snd
  let all := o.letters.foldl
    (fun (order : KeyOrder) (c, v) =>
      if c = 'b' then { order with bareStart := true, bareStop := true }
      else if c = 'O' then { order with kind := kindOf v }
      else (order.set? c false).getD order)
    {}
  let keys ← (o.letters.filter (·.1 = 'k')).mapM fun l => sortKey l.2
  let kinds := (o.letters.filter fun l => "ghMnRV".toList.contains l.1).map Prod.fst |>.eraseDups
  if kinds.length > 1 then
    throw ("options '-" ++ String.ofList (kinds.mergeSort fun a b => a ≤ b) ++
      "' are incompatible")
  if o.has 'c' && o.has 'C' then throw "options '-cC' are incompatible"
  let keys := keys.map fun k => if k.order = {} then { k with order := all } else k
  let keys := if keys.isEmpty then [{ order := all }] else keys
  return { keys, mark, stable := o.has 's' || o.has 'u', reversed := o.has 'r' }

/-- The long names of the options of `sort`. -/
def sortOptions : List (String × Char) :=
  [("ignore-leading-blanks", 'b'), ("dictionary-order", 'd'), ("ignore-case", 'f'),
    ("general-numeric-sort", 'g'), ("ignore-nonprinting", 'i'), ("month-sort", 'M'),
    ("human-numeric-sort", 'h'), ("numeric-sort", 'n'), ("random-sort", 'R'), ("reverse", 'r'),
    ("sort", 'O'), ("version-sort", 'V'), ("check", 'c'), ("key", 'k'), ("merge", 'm'),
    ("output", 'o'), ("stable", 's'), ("buffer-size", 'S'), ("field-separator", 't'),
    ("temporary-directory", 'T'), ("parallel", 'P'), ("unique", 'u'), ("zero-terminated", 'z')]

/-- The first line that should not stand behind the one in front, with its number. -/
def disorder? (s : Sorting) (unique : Bool) : (number : Nat) → List (List UInt8) →
    Option (Nat × List UInt8)
  | n, a :: b :: rest =>
    let order := s.compare a b
    if order = .gt || (unique && order = .eq) then some (n + 1, b)
    else disorder? s unique (n + 1) (b :: rest)
  | _, _ => none

/-- Says that an operand cannot be read. -/
def unsortable (path : String) (fault : Fault) : Eval Unit :=
  let what := match fault with
    | .isDirectory => "read failed: "
    | .badStream => "stat failed: "
    | _ => "cannot read: "
  complain ("sort: " ++ what ++ path ++ ": " ++ fault.words)

/-- Sorts the lines of operands, or looks whether they are sorted. -/
def performSort (o : Options) (s : Sorting) : Eval Nat := do
  let finish : UInt8 := if o.has 'z' then 0 else 10
  let operands := orInput o.operands
  if o.has 'c' || o.has 'C' then
    match operands with
    | _ :: extra :: _ =>
      complain ("sort: extra operand " ++ quotedName extra ++ " not allowed with -" ++
        (if o.has 'c' then "c" else "C"))
      return 2
    | operands =>
      let path := operands.head?.getD "-"
      match ← readWhole path with
      | .error fault =>
        unsortable path fault
        return 2
      | .ok bytes =>
        match disorder? s (o.has 'u') 1 (linesEndedBy finish bytes.toList) with
        | none => return 0
        | some (n, line) =>
          if !o.has 'C' && o.value? 'c' != some "quiet" && o.value? 'c' != some "silent" then
            complain ("sort: " ++ path ++ ":" ++ toString n ++ ": disorder: " ++
              Text.decodeLossy ⟨line.toArray⟩)
          return 1
  let mut lines : List (List UInt8) := []
  for path in operands do
    match ← readWhole path with
    | .error fault =>
      unsortable path fault
      throw (Stop.exit 2)
    | .ok bytes => lines := lines ++ linesEndedBy finish bytes.toList
  let sorted := lines.mergeSort fun a b => s.compare a b != .gt
  let sorted := if o.has 'u' then withoutEqual (fun a b => s.compare a b == .eq) sorted else sorted
  let bytes := sorted.flatMap (· ++ [finish])
  match o.value? 'o' with
  | none =>
    printBytes bytes
    return 0
  | some path =>
    match ← writeFile path ⟨bytes.toArray⟩ with
    | none => return 0
    | some fault =>
      complain ("sort: open failed: " ++ path ++ ": " ++ fault.words)
      return 2

/-- Arguments whose keys are all written as options: `+m -n` stands for the key from the field
behind `m` ones to the field `n`. -/
def withKeyOptions : List String → List String
  | [] => []
  | "--" :: rest => "--" :: rest
  | arg :: rest =>
    let number (mark : Char) (s : String) : Option Nat :=
      match s.toList with
      | c :: ds => if c = mark then naturalNumber? (String.ofList ds) else none
      | [] => none
    match number '+' arg, rest with
    | some m, stop :: more =>
      match number '-' stop with
      | some n => ("-k" ++ toString (m + 1) ++ "," ++ toString n) :: withKeyOptions more
      | none => ("-k" ++ toString (m + 1)) :: withKeyOptions (stop :: more)
    | some m, [] => [("-k" ++ toString (m + 1))]
    | none, rest => arg :: withKeyOptions rest

/-- `sort` sorts lines. -/
def sort : Utility := fun args =>
  withOptions "sort" "bdfghiMnRrVcCmsuz" "kotSTPOc" 2
    (fun o => do
      match sortingOf o with
      | .error message =>
        complain ("sort: " ++ message)
        return 2
      | .ok s => performSort o s)
    sortOptions (withKeyOptions args)

end Assay.Shell
