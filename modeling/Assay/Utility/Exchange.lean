import Assay.Shell.Pattern
import Assay.Shell.Print
import Assay.Utility.Basic

/-!
# Exchanging octets

`tr` puts octets in the place of others, removes them, or leaves only one of several in a row. Its
sets name octets one by one, by ranges, by classes and by how often they are repeated.
-/

namespace Assay.Shell

/-- A part of a set. -/
inductive SetPart where
  | bytes (bs : List UInt8)
  /-- The octets of a class. -/
  | ofClass (name : String) (bs : List UInt8)
  /-- An octet so many times, or as often as the set has to be longer. -/
  | repeated (b : UInt8) (count : Option Nat)

/-- The octets of a class, in order. -/
def classBytes (name : String) : Option (List UInt8) :=
  (classOf? name).map fun holds =>
    ((List.range 128).filter fun n => holds (Char.ofNat n)).map UInt8.ofNat

/-- An octet of a set, and whether it was written by an escape. -/
structure SetByte where
  byte : UInt8
  escaped : Bool := false

/-- The octets that a text writes, escapes resolved; the fuel is the length of the text. -/
def setText : (fuel : Nat) → List UInt8 → List SetByte
  | 0, _ => []
  | _ + 1, [] => []
  | fuel + 1, 92 :: b :: rest =>
    let c := Char.ofNat b.toNat
    if isOctal c then
      let digits := (b :: rest).takeWhile fun d => 48 ≤ d && d ≤ 55
      let value (ds : List UInt8) : Nat := ds.foldl (fun n d => 8 * n + (d.toNat - 48)) 0
      let ds := digits.take 3
      let ds := if value ds > 255 then digits.take 2 else ds
      ⟨UInt8.ofNat (value ds), true⟩ :: setText fuel ((b :: rest).drop ds.length)
    else
      match if c = 'e' then none else letterEscape? c with
      | some e => ⟨e, true⟩ :: setText fuel rest
      | none => ⟨b, true⟩ :: setText fuel rest
  | fuel + 1, b :: rest => ⟨b, false⟩ :: setText fuel rest

/-- How an octet is shown in a message. -/
def shownByte (b : UInt8) : String :=
  if isPrintable b then String.singleton (Char.ofNat b.toNat) else byteEscape b

/-- The octets of text up to two octets that end it, and what is behind them. -/
def upToPair (a : UInt8) : List SetByte → Option (List SetByte × List SetByte)
  | x :: y :: rest =>
    if x.byte = a && y.byte = 93 && !x.escaped && !y.escaped then some ([], rest)
    else (upToPair a (y :: rest)).map fun (inner, behind) => (x :: inner, behind)
  | _ => none

/-- The count behind the asterisk of a repetition, and what is behind its bracket. -/
def repeatCount? (s : List SetByte) : Option (Option Nat × List SetByte) :=
  let ds := s.takeWhile fun d => 48 ≤ d.byte && d.byte ≤ 57
  match s.drop ds.length with
  | ⟨93, false⟩ :: behind =>
    let digits := ds.map fun d => Char.ofNat d.byte.toNat
    let base := if digits.head? = some '0' then 8 else 10
    let n := digits.foldl (fun n c => base * n + (c.toNat - '0'.toNat)) 0
    some (if n = 0 then none else some n, behind)
  | _ => none

/-- The parts of a set; an error is a message. -/
def setParts : (fuel : Nat) → List SetByte → Except String (List SetPart)
  | 0, _ => .ok []
  | _ + 1, [] => .ok []
  | fuel + 1, s =>
    let named (s : List SetByte) : Option (Except String (SetPart × List SetByte)) :=
      match s with
      | ⟨91, false⟩ :: ⟨58, false⟩ :: rest =>
        (upToPair 58 rest).map fun (inner, behind) =>
          let name := String.ofList (inner.map fun b => Char.ofNat b.byte.toNat)
          match classBytes name with
          | some bs => .ok (.ofClass name bs, behind)
          | none => .error ("invalid character class '" ++ name ++ "'")
      | ⟨91, false⟩ :: ⟨61, false⟩ :: rest =>
        (upToPair 61 rest).map fun (inner, behind) =>
          match inner with
          | [b] => .ok (.bytes [b.byte], behind)
          | _ => .error "equivalence class operand must be a single character"
      | ⟨91, false⟩ :: b :: ⟨42, false⟩ :: rest =>
        (repeatCount? rest).map fun (count, behind) => .ok (.repeated b.byte count, behind)
      | _ => none
    match named s with
    | some (.ok (part, behind)) => do return part :: (← setParts fuel behind)
    | some (.error message) => .error message
    | none =>
      match s with
      | a :: ⟨45, false⟩ :: b :: rest =>
        if b.byte < a.byte then
          .error ("range-endpoints of '" ++ shownByte a.byte ++ "-" ++ shownByte b.byte ++
            "' are in reverse collating sequence order")
        else do
          let bs := (List.range (b.byte.toNat + 1 - a.byte.toNat)).map fun i =>
            UInt8.ofNat (a.byte.toNat + i)
          return .bytes bs :: (← setParts fuel rest)
      | a :: rest => do return .bytes [a.byte] :: (← setParts fuel rest)
      | [] => .ok []

/-- The set that a text writes. -/
def readSet (s : String) : Except String (List SetPart) :=
  let text := setText (s.utf8ByteSize + 1) (textBytes s)
  setParts (text.length + 1) text

/-- The octets of a set; a repetition without a count makes it so long as another one. -/
def setBytes (other : Nat) (parts : List SetPart) : List UInt8 :=
  let fixed (p : SetPart) : List UInt8 := match p with
    | .bytes bs | .ofClass _ bs => bs
    | .repeated b count => List.replicate (count.getD 0) b
  let length := (parts.flatMap fixed).length
  parts.flatMap fun
    | .repeated b none => List.replicate (other - length) b
    | p => fixed p

/-- Whether a set names a class that has no place in what is put in the place of others. -/
def hasOtherClass (parts : List SetPart) : Bool :=
  parts.any fun
    | .ofClass name _ => name ≠ "upper" && name ≠ "lower"
    | _ => false

/-- Bytes without repetitions of those in a set. -/
def squeeze (set : List UInt8) : List UInt8 → List UInt8
  | a :: b :: rest =>
    if a = b && set.contains a then squeeze set (b :: rest) else a :: squeeze set (b :: rest)
  | bytes => bytes

/-- A byte put in the place of another one: the one at the last of the same places of a second set,
of which the last byte stands for all that follow. -/
def exchange (given wanted : List UInt8) (b : UInt8) : UInt8 :=
  let length := given.length
  match given.reverse.idxOf? b with
  | some i => (wanted[length - 1 - i]?).getD (wanted.getLast?.getD b)
  | none => b

/-- All bytes that a set does not have. -/
def complementBytes (set : List UInt8) : List UInt8 :=
  ((List.range 256).map UInt8.ofNat).filter (!set.contains ·)

/-- Reports that more operands are needed, or fewer. -/
def wrongSets (operands : List String) (deletes squeezes : Bool) : Option (List String) :=
  let quoted (i : Nat) : String := quotedName ((operands[i]?).getD "")
  match operands.length with
  | 0 => some ["missing operand"]
  | 1 =>
    if deletes && squeezes then
      some ["missing operand after " ++ quoted 0,
        "Two strings must be given when both deleting and squeezing repeats."]
    else if deletes || squeezes then none
    else some ["missing operand after " ++ quoted 0,
      "Two strings must be given when translating."]
  | 2 =>
    if deletes && !squeezes then
      some ["extra operand " ++ quoted 1,
        "Only one string may be given when deleting without squeezing repeats."]
    else none
  | _ => some ["extra operand " ++ quoted 2]

/-- What `tr` makes of bytes; an error is a message. -/
def mapping (o : Options) (first : List SetPart) (second : Option (List SetPart)) :
    Except String (List UInt8 → List UInt8) := do
  let deletes := o.has 'd'
  let squeezes := o.has 's'
  let complements := o.has 'c' || o.has 'C'
  let given := setBytes 0 first
  let given := if complements then complementBytes given else given
  match deletes, second with
  | true, none => return List.filter (!given.contains ·)
  | true, some second =>
    let set := setBytes 0 second
    return fun bytes => squeeze set (bytes.filter (!given.contains ·))
  | false, none => return if squeezes then squeeze given else id
  | false, some second =>
    let wanted := setBytes given.length second
    let given := if o.has 't' then given.take wanted.length else given
    if wanted.isEmpty && !o.has 't' then
      throw "when not truncating set1, string2 must be non-empty"
    if hasOtherClass second then
      throw ("when translating, the only character classes that may appear in\n" ++
        "string2 are 'upper' and 'lower'")
    let hasClass := first.any fun | .ofClass .. => true | _ => false
    if complements && hasClass && (wanted.eraseDups.length ≠ 1) then
      throw ("when translating with complemented character classes,\n" ++
        "string2 must map all characters in the domain to one")
    let change := exchange given wanted
    return fun bytes =>
      let bytes := bytes.map change
      if squeezes then squeeze wanted bytes else bytes

/-- `tr` puts characters in the place of others, removes them, or squeezes their repetitions. -/
def tr : Utility :=
  withOptions "tr" "dscCt" "" 1
    (fun o => do
      match wrongSets o.operands (o.has 'd') (o.has 's') with
      | some (message :: more) =>
        complain ("tr: " ++ message)
        for line in more do complain line
        complain "Try 'tr --help' for more information."
        return 1
      | _ =>
        let sets := o.operands.mapM readSet
        match sets.bind fun sets => mapping o ((sets[0]?).getD []) sets[1]? with
        | .error message =>
          complain ("tr: " ++ message)
          return 1
        | .ok change =>
          match ← readFrom 0 none with
          | .ok bytes =>
            printBytes (change bytes.toList)
            return 0
          | .error fault =>
            complain ("tr: read error: " ++ fault.words)
            return 1)
    [("complement", 'c'), ("delete", 'd'), ("squeeze-repeats", 's'), ("truncate-set1", 't')]

end Assay.Shell
