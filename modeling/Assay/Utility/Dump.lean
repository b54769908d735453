import Assay.Utility.Fold

/-!
# Showing octets

`od` shows octets as numbers or characters, a block in each line behind the place where it begins. A
line that would repeat the one in front is left out; a star stands for all such lines. Blocks may be
shown in several ways, each in a line of its own, with the columns of the widest one.
-/

namespace Assay.Shell

open Machine Host

/-- What octets are shown as: characters, names of characters, or numbers. -/
inductive Shown where
  | character
  | name
  | signed
  | unsigned (base : Nat)
deriving DecidableEq

/-- A way to show octets: what as, how many octets at once, and whether as characters also. -/
structure View where
  shown : Shown
  size : Nat := 1
  echoed : Bool := false

/-- The number that octets make up, the least one first. -/
def littleNumber (bytes : List UInt8) : Nat :=
  bytes.foldr (fun b n => 256 * n + b.toNat) 0

/-- How many columns a field takes. -/
def View.width (v : View) : Nat :=
  let digits (widths : List Nat) : Nat := (widths[Nat.log2 v.size]?).getD 0
  match v.shown with
  | .character | .name => 3
  | .signed => digits [4, 6, 11, 20]
  | .unsigned 8 => digits [3, 6, 11, 22]
  | .unsigned 10 => digits [3, 5, 10, 20]
  | .unsigned _ => digits [2, 4, 8, 16]

/-- The names of the characters that are not printed. -/
def octetNames : List String :=
  ["nul", "soh", "stx", "etx", "eot", "enq", "ack", "bel", "bs", "ht", "nl", "vt", "ff", "cr", "so",
    "si", "dle", "dc1", "dc2", "dc3", "dc4", "nak", "syn", "etb", "can", "em", "sub", "esc", "fs",
    "gs", "rs", "us", "sp"]

/-- A number in so many digits at least. -/
def inDigits (base least n : Nat) : String :=
  let ds := Nat.toDigits base n
  String.ofList (List.replicate (least - ds.length) '0' ++ ds)

/-- An octet as a character. -/
def octetAsCharacter (b : UInt8) : String :=
  match b.toNat with
  | 0 => "\\0"
  | 7 => "\\a"
  | 8 => "\\b"
  | 9 => "\\t"
  | 10 => "\\n"
  | 11 => "\\v"
  | 12 => "\\f"
  | 13 => "\\r"
  | n => if isPrintable b then String.singleton (Char.ofNat n) else inDigits 8 3 n

/-- A field: what some octets are shown as. -/
def View.field (v : View) (bytes : List UInt8) : String :=
  let n := littleNumber bytes
  match v.shown with
  | .character => octetAsCharacter (bytes.headD 0)
  | .name =>
    let code := n % 128
    if code = 127 then "del" else (octetNames[code]?).getD (String.singleton (Char.ofNat code))
  | .signed =>
    let range := Nat.pow 256 v.size
    toString (if range ≤ 2 * n then (n : Int) - range else n)
  | .unsigned 10 => toString n
  | .unsigned base => inDigits base v.width n

/-- Octets in groups of a size, the last one filled up with zeros. -/
def inGroups (size : Nat) : (fuel : Nat) → List UInt8 → List (List UInt8)
  | 0, _ => []
  | _, [] => []
  | fuel + 1, bytes =>
    let group := bytes.take size
    (group ++ List.replicate (size - group.length) 0) :: inGroups size fuel (bytes.drop size)

/-- How octets are shown. -/
structure Dumping where
  views : List View
  /-- The base of places; none if they are not shown. -/
  radix : Option Nat := some 8
  /-- How many octets a line shows. -/
  perLine : Nat := 16
  /-- Whether all lines are shown. -/
  every : Bool := false

/-- A place in front of a line. -/
def Dumping.place (d : Dumping) (n : Nat) : String :=
  d.radix.elim "" fun base => inDigits base (if base = 16 then 6 else 7) n

/-- The columns that the fields of a line take in the widest way to show it. -/
def Dumping.fullWidth (d : Dumping) : Nat :=
  (d.views.map fun v => (v.width + 1) * (d.perLine / v.size)).foldl max 0

/-- The fields of a line, which share out the blanks that there are besides them. -/
def Dumping.fields (d : Dumping) (v : View) (bytes : List UInt8) : String :=
  let count := d.perLine / v.size
  let blanks := d.fullWidth - v.width * count
  let groups := inGroups v.size bytes.length bytes
  let share (i : Nat) : Nat := blanks * (count - i) / count - blanks * (count - i - 1) / count
  "".intercalate ((groups.zipIdx).map fun (g, i) => padLeft (v.width + share i) (v.field g))

/-- The lines that show a block. -/
def Dumping.block (d : Dumping) (n : Nat) (bytes : List UInt8) : List String :=
  (d.views.zipIdx).map fun (v, i) =>
    let front := d.place n
    let front := if i = 0 then front else padLeft front.length ""
    let missing := (d.perLine - bytes.length) / v.size * (v.width + 1)
    let echo := bytes.map fun b => if isPrintable b then Char.ofNat b.toNat else '.'
    front ++ d.fields v bytes ++
      if v.echoed then padLeft missing "" ++ "  >" ++ String.ofList echo ++ "<" else ""

/-- The lines that show octets; `previous` is the block in front, and `starred` says whether a star
stands there already. -/
def Dumping.lines (d : Dumping) : (fuel : Nat) → (n : Nat) → (previous : Option (List UInt8)) →
    (starred : Bool) → List UInt8 → List String
  | 0, _, _, _, _ => []
  | fuel + 1, n, previous, starred, bytes =>
    let block := bytes.take d.perLine
    if block.isEmpty then (if d.radix.isSome then [d.place n] else [])
    else
      let rest := bytes.drop d.perLine
      let n' := n + block.length
      if !d.every && some block = previous then
        (if starred then [] else ["*"]) ++ d.lines fuel n' previous true rest
      else d.block n block ++ d.lines fuel n' (some block) false rest

/-- The size of octets that is written behind a type, and what follows. -/
def viewSize (default : Nat) (s : List Char) : Option (Nat × List Char) :=
  match s with
  | 'C' :: rest => some (1, rest)
  | 'S' :: rest => some (2, rest)
  | 'I' :: rest => some (4, rest)
  | 'L' :: rest => some (8, rest)
  | s =>
    let ds := s.takeWhile Char.isDigit
    if ds.isEmpty then some (default, s)
    else
      let n := decimalValue ds
      if [1, 2, 4, 8].contains n then some (n, s.drop ds.length) else none

/-- The ways to show octets that types write; an error is a message. -/
def viewsOf (types : String) : (fuel : Nat) → List Char → Except String (List View)
  | _, [] => .ok []
  | 0, _ => .ok []
  | fuel + 1, c :: rest => do
    let shown ← match c with
      | 'a' => pure Shown.name
      | 'c' => pure .character
      | 'd' => pure .signed
      | 'o' => pure (.unsigned 8)
      | 'u' => pure (.unsigned 10)
      | 'x' => pure (.unsigned 16)
      | c =>
        throw ("invalid character '" ++ String.singleton c ++ "' in type string " ++
          quotedName types)
    let (size, rest) ←
      if shown = .name || shown = .character then pure (1, rest)
      else match viewSize 4 rest with
        | some r => pure r
        | none =>
          throw ("invalid type string " ++ quotedName types ++
            ";\nthis system doesn't provide a " ++
            String.ofList (rest.takeWhile Char.isDigit) ++ "-byte integral type")
    let echoed := rest.head? = some 'z'
    let more ← viewsOf types fuel (if echoed then rest.tail else rest)
    return { shown, size, echoed } :: more

/-- The types that letters of options stand for. -/
def viewTypes : List (Char × String) :=
  [('a', "a"), ('b', "o1"), ('c', "c"), ('d', "u2"), ('i', "d4"), ('l', "d8"), ('o', "o2"),
    ('s', "d2"), ('x', "x2"), ('h', "x2")]

/-- A number of octets, which may be written to other bases and with a unit. -/
def octetCount? (s : String) : Option Nat :=
  let (base, digits) := match s.toList with
    | '0' :: 'x' :: ds | '0' :: 'X' :: ds => (16, ds)
    | '0' :: ds => (8, '0' :: ds)
    | ds => (10, ds)
  let value (c : Char) : Nat :=
    if c.isDigit then c.toNat - 48 else if 'a' ≤ c && c ≤ 'f' then c.toNat - 87
    else if 'A' ≤ c && c ≤ 'F' then c.toNat - 55 else 99
  let front := digits.takeWhile (value · < base)
  let n := front.foldl (fun n c => base * n + value c) 0
  if front.isEmpty then none
  else match String.ofList (digits.drop front.length) with
    | "" => some n
    | "b" => some (512 * n)
    | "k" | "K" | "KiB" => some (1024 * n)
    | "kB" | "KB" => some (1000 * n)
    | "m" | "M" | "MiB" => some (1048576 * n)
    | "MB" => some (1000000 * n)
    | "G" | "GiB" => some (1073741824 * n)
    | _ => none

/-- How options say that octets are shown; an error is a message. -/
def dumpingOf (o : Options) : Except String Dumping := do
  let radix ← match o.value? 'A' with
    | none | some "o" => pure (some 8)
    | some "d" => pure (some 10)
    | some "x" => pure (some 16)
    | some "n" => pure none
    | some v =>
      throw ("invalid output address radix '" ++ String.ofList (v.toList.take 1) ++
        "'; it must be one character from [doxn]")
  let views ← o.letters.foldlM
    (fun (views : List View) (c, v) => do
      let types := if c = 't' then v else (viewTypes.lookup c).getD ""
      return views ++ (← viewsOf types types.length types.toList))
    []
  let views := if views.isEmpty then [{ shown := .unsigned 8, size := 2 }] else views
  let unit := (views.map View.size).foldl max 1
  let perLine ← match o.value? 'w' with
    | none => pure (16 / unit * unit)
    | some "" => pure 32
    | some v =>
      match octetCount? v with
      | some n => if n = 0 || n % unit ≠ 0 then pure unit else pure n
      | none => throw ("invalid -w argument " ++ quotedName v)
  return { views, radix, perLine, every := o.has 'v' }

/-- `od` shows octets. -/
def od : Utility := fun args =>
  let args := args.map fun a => if a = "-w" || a = "--width" then "-w32" else a
  withOptions "od" "abcdhilosxv" "AjNtw" 1
    (fun o => do
      let count (c : Char) : Except String (Option Nat) :=
        match o.value? c with
        | none => .ok none
        | some v =>
          match octetCount? v with
          | some n => .ok (some n)
          | none => .error ("invalid -" ++ String.singleton c ++ " argument " ++ quotedName v)
      match dumpingOf o, count 'j', count 'N' with
      | .error message, _, _ | _, .error message, _ | _, _, .error message =>
        complain ("od: " ++ message)
        return 1
      | .ok d, .ok skipped, .ok limit =>
        let start := skipped.getD 0
        let enough := limit.map (start + ·)
        let (bytes, done) ← readAll "od" (readOperand enough) (orInput o.operands)
        if bytes.size < start then
          complain "od: cannot skip past end of combined input"
          return 1
        let bytes := (bytes.extract start (min bytes.size (enough.getD bytes.size))).toList
        if limit.isNone then refuseHunger
        if done || !bytes.isEmpty then
          printLines (d.lines (bytes.length + 2) start none false bytes)
        return if done then 0 else 1)
    [("address-radix", 'A'), ("skip-bytes", 'j'), ("read-bytes", 'N'), ("format", 't'),
      ("output-duplicates", 'v'), ("width", 'w')] args

end Assay.Shell
