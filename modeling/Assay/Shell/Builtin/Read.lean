import Assay.Shell.Builtin.Variable
import Assay.Shell.Expansion

/-!
# Reading lines and options

`read` gives the fields of a line to variables. What a backslash protects belongs to a field as it
is; the other characters make up regions, which are split at separators. `getopts` gives the options
among arguments to a variable, one at each call.
-/

namespace Assay.Shell

/-! ## Lines -/

/-- Octets in a row, and whether they may be split at separators. -/
structure Region where
  octets : List UInt8
  splits : Bool

/-- Regions with an octet in front. -/
def Region.push (b : UInt8) (splits : Bool) : List Region → List Region
  | r :: rest =>
    if r.splits = splits then ⟨b :: r.octets, splits⟩ :: rest
    else ⟨[b], splits⟩ :: r :: rest
  | [] => [⟨[b], splits⟩]

/-- The most bytes of a line that is read. -/
def maxLine : Nat := 1048576

/-- Reads a line: its regions, the last one first and their octets from behind, and whether a line
break ends it. -/
def readRegions (plain : Bool) :
    (fuel : Nat) → ( escaped : Bool) → (read : List Region) → Eval (List Region × Bool)
  | 0, _, read => return (read, false)
  | fuel + 1, escaped, read => do
    match ← readFrom 0 (some 1) with
    | .error _ => return (read, false)
    | .ok bytes =>
      match bytes.toList with
      | [] =>
        refuseHunger
        return (read, false)
      | b :: _ =>
        if b = 0 then readRegions plain fuel escaped read
        else if escaped then
          let read := if b = 10 then read else Region.push b false read
          -- What is protected ends the region in front of it.
          let read := match read with
            | r :: _ => if r.splits then read else ⟨[], true⟩ :: read
            | [] => []
          readRegions plain fuel false read
        else if b = 92 && !plain then readRegions plain fuel true read
        else if b = 10 then return (read, true)
        else readRegions plain fuel false (Region.push b true read)

/-- How far the last field has been read: whether it is being read, the place from which on there
are only separators, and whether the last separator was a blank. -/
structure LastField where
  open? : Bool := false
  cut : Option Nat := none
  blank : Bool := false

/-- Splits regions into so many fields at most, the last of which goes on to the end without the
separators there. Places are counted from the beginning of the field; `field` is what has been read
of it, from behind. `skip` says that separators behind a field are being gone over, and whether one
that is no blank still belongs to them. -/
def splitRegions (isSeparator isBlank : UInt8 → Bool) :
    (items : List (UInt8 × Bool)) → (count : Nat) → (field : List UInt8) → (skip : Option Bool) →
    LastField → List (List UInt8)
  | [], _, field, _, last =>
    let text := field.reverse
    let text := match last.cut with
      | some n => text.take n
      | none => text
    if field.isEmpty then [] else [text]
  | (b, splits) :: rest, count, field, skip, last =>
    let separates := splits && isSeparator b
    let blank := separates && isBlank b
    if last.open? then
      if !splits then splitRegions isSeparator isBlank rest count (b :: field) none last
      else if blank then
        let cut := last.cut <|> some field.length
        splitRegions isSeparator isBlank rest count (b :: field) none { last with cut }
      else
        let cut := if separates && last.blank then last.cut else none
        splitRegions isSeparator isBlank rest count (b :: field) none
          { last with cut, blank := false }
    else
      match skip with
      | some more =>
        if blank then splitRegions isSeparator isBlank rest count [] (some more) last
        else if separates && more then
          splitRegions isSeparator isBlank rest count [] (some false) last
        else if separates then
          splitField rest b count [] blank last
        else splitRegions isSeparator isBlank rest count [b] none last
      | none =>
        if !separates then splitRegions isSeparator isBlank rest count (b :: field) none last
        else if blank && field.isEmpty then
          splitRegions isSeparator isBlank rest count [] none last
        else splitField rest b count field blank last
where
  /-- Goes on behind a separator that ends a field. -/
  splitField (rest : List (UInt8 × Bool)) (b : UInt8) (count : Nat) (field : List UInt8)
      (blank : Bool) (last : LastField) : List (List UInt8) :=
    if count ≤ 1 then
      splitRegions isSeparator isBlank rest count (b :: field) none
        { open? := true, cut := some field.length, blank }
    else
      field.reverse ::
        splitRegions isSeparator isBlank rest (count - 1) [] (some blank) last

/-- Gives fields to variables; those without one become empty. -/
def giveFields : List String → List String → Eval Unit
  | [], _ => return ()
  | name :: names, fields => do
    neededName name
    setVariable name (fields.headD "")
    giveFields names fields.tail

/-- `read` gives the fields of the next line of the standard input to variables. -/
def readVariables : Utility :=
  withLetters "r" "p" fun o => do
    if o.operands.isEmpty then fatal "arg count"
    let (regions, ended) ← readRegions (o.has 'r') maxLine false []
    let items := (regions.reverse.map fun r =>
      r.octets.reverse.map fun b => (b, r.splits)).flatten
    let signs := (← separators).filterMap fun c =>
      if c.toNat < 128 then some c.toUInt8 else none
    let isBlank (b : UInt8) : Bool := b = 32 || b = 9 || b = 10
    let fields := splitRegions signs.contains isBlank items o.operands.length [] none {}
    giveFields o.operands (fields.map fun f => Text.decodeLossy ⟨f.toArray⟩)
    return if ended then 0 else 1

/-! ## Options -/

/-- Whether an option is among those of a text, and whether it takes a value. -/
def optionKind? : (options : List Char) → (c : Char) → Option Bool
  | [], _ => none
  | o :: rest, c =>
    if o = c then some (rest.head? = some ':')
    else match rest with
      | ':' :: rest => optionKind? rest c
      | rest => optionKind? rest c

/-- What a call of `getopts` finds: the option, its value, where the next one is looked for, and
what is said about it. -/
structure FoundOption where
  option : Char
  value : Option String := none
  next : Nat
  place : Option Nat := none
  complaint : Option String := none
  done : Bool := false

/-- Looks for the next option among arguments. -/
def findOption (options : String) (args : List String) (next : Nat) (place : Option Nat) :
    FoundOption :=
  let silent := options.startsWith ":"
  let here := match place with
    | some n => if next ≤ 1 then [] else ((args[next - 2]?).getD "").toList.drop n
    | none => []
  let word := ((args[next - 1]?).getD "").toList
  let start : Option (List Char × Nat) :=
    if !here.isEmpty then some (here, next)
    else match word with
      | '-' :: c :: rest => if c = '-' && rest.isEmpty then none else some (c :: rest, next + 1)
      | _ => none
  match start with
  | none | some ([], _) =>
    { option := '?', done := true, next := if word = ['-', '-'] then next + 1 else next }
  | some (c :: rest, next) =>
    let behind := ((args[next - 2]?).getD "").length - rest.length
    match optionKind? options.toList c with
    | none =>
      if silent then
        { option := '?', value := some (String.singleton c), next, place := some behind }
      else
        { option := '?', next, place := some behind
          complaint := some ("Illegal option -" ++ String.singleton c) }
    | some false => { option := c, value := some "", next, place := some behind }
    | some true =>
      if !rest.isEmpty then { option := c, value := some (String.ofList rest), next }
      else match args[next - 1]? with
        | some value => { option := c, value := some value, next := next + 1 }
        | none =>
          if silent then
            { option := ':', value := some (String.singleton c), next, place := some behind }
          else
            { option := '?', next, place := some behind
              complaint := some ("No arg for -" ++ String.singleton c ++ " option") }

/-- `getopts` gives the next option among arguments to a variable. -/
def getopts : Utility := fun args => do
  match args with
  | options :: name :: rest =>
    let sh ← shell
    let args := if rest.isEmpty then sh.args else rest
    let (next, place) :=
      if sh.optionNext > args.length + 1 then (1, none) else (sh.optionNext, sh.optionPlace)
    let found := findOption options args next place
    if let some words := found.complaint then complain words
    match found.value with
    | some v => setVariable "OPTARG" v
    | none => if !found.done then unsetVariable "OPTARG"
    setVariable "OPTIND" (toString found.next)
    neededName name
    setVariable name (String.singleton found.option)
    changeShell fun s => { s with optionNext := found.next, optionPlace := found.place }
    return if found.done then 1 else 0
  | _ => fatal "Usage: getopts optstring var [arg...]"

end Assay.Shell
