import Assay.Utility.Dump

/-!
# Octets in letters

`base64` and `base32` write octets with 64 or 32 characters, and read what they wrote. The
characters stand for groups of bits; at the end of the octets a sign fills up the last group of
characters.
-/

namespace Assay.Shell

open Machine Host

/-- A way to write octets: how many bits a character stands for, and how many octets and characters
make up a group. -/
structure Coding where
  name : String
  bits : Nat
  octets : Nat
  characters : Nat
  alphabet : List Char

/-- Writing octets with 64 characters. -/
def coding64 : Coding where
  name := "base64"
  bits := 6
  octets := 3
  characters := 4
  alphabet := "ABCDEFGHIJKLMNOPQRSTUVWXYZabcdefghijklmnopqrstuvwxyz0123456789+/".toList

/-- Writing octets with 32 characters. -/
def coding32 : Coding where
  name := "base32"
  bits := 5
  octets := 5
  characters := 8
  alphabet := "ABCDEFGHIJKLMNOPQRSTUVWXYZ234567".toList

/-- The number that octets make up, the greatest one first. -/
def bigNumber (bytes : List UInt8) : Nat :=
  bytes.foldl (fun n b => 256 * n + b.toNat) 0

/-- A number in so many octets, the greatest one first. -/
def bigOctets (count n : Nat) : List UInt8 :=
  ((List.range count).map fun i => UInt8.ofNat (n / Nat.pow 256 i % 256)).reverse

/-- The characters that write a group of octets. -/
def Coding.encodeGroup (c : Coding) (group : List UInt8) : List Char :=
  let n := bigNumber (group ++ List.replicate (c.octets - group.length) 0)
  let used := (8 * group.length + c.bits - 1) / c.bits
  (List.range c.characters).map fun i =>
    if i < used then
      (c.alphabet[n / Nat.pow 2 (c.bits * (c.characters - 1 - i)) % Nat.pow 2 c.bits]?).getD '='
    else '='

/-- The characters that write octets; of at most so many groups. -/
def Coding.encode (c : Coding) : (fuel : Nat) → List UInt8 → List Char
  | 0, _ => []
  | fuel + 1, bytes =>
    if bytes.isEmpty then []
    else c.encodeGroup (bytes.take c.octets) ++ c.encode fuel (bytes.drop c.octets)

/-- Characters in lines of a width, each with a line break. -/
def wrapped (width : Nat) : (fuel : Nat) → List Char → List Char
  | 0, _ => []
  | fuel + 1, s =>
    if s.isEmpty then [] else s.take width ++ '\n' :: wrapped width fuel (s.drop width)

/-- The octets that a group of characters writes, and whether it is one. A group that is cut short
writes what is complete. -/
def Coding.decodeGroup (c : Coding) (group : List Char) : List UInt8 × Bool :=
  let letters := group.takeWhile (· ≠ '=')
  let values := letters.filterMap fun l => c.alphabet.findIdx? (· = l)
  let n := values.foldl (fun n v => Nat.pow 2 c.bits * n + v) 0
  let filled := n * Nat.pow 2 (c.bits * (c.characters - letters.length))
  let count := c.bits * letters.length / 8
  let complete := (8 * count + c.bits - 1) / c.bits = letters.length && count > 0
  ((bigOctets c.octets filled).take count,
    complete && (group.drop letters.length).all (· = '=') && group.length = c.characters)

/-- The octets that characters write, and whether they could all be read; of at most so many
groups. -/
def Coding.decode (c : Coding) : (fuel : Nat) → List Char → List UInt8 × Bool
  | 0, s => ([], s.isEmpty)
  | fuel + 1, s =>
    if s.isEmpty then ([], true)
    else
      let group := s.take c.characters
      let (octets, fine) := c.decodeGroup group
      let rest := s.drop c.characters
      if fine then
        let (more, fine) := c.decode fuel rest
        (octets ++ more, fine)
      else (octets, false)

/-- What is read of characters: those of the alphabet and the sign at the end. Others end it, unless
they are to be left out. -/
def Coding.readable (c : Coding) (lenient : Bool) (s : List Char) : List Char × Bool :=
  let isOne (ch : Char) : Bool := ch = '=' || c.alphabet.contains ch
  let s := s.filter (· ≠ '\n')
  if lenient then (s.filter isOne, true)
  else
    let front := s.takeWhile isOne
    (front, front.length = s.length)

/-- A utility that writes octets with characters, and reads them with an option. -/
def recode (c : Coding) : Utility :=
  withOptions c.name "di" "w" 1
    (fun o => do
      match o.operands with
      | _ :: extra :: _ =>
        misused c.name ("extra operand " ++ quotedName extra)
        return 1
      | operands =>
        let width := (o.value? 'w').getD "76"
        match naturalNumber? width with
        | none =>
          complain (c.name ++ ": invalid wrap size: " ++ quotedName width)
          return 1
        | some width =>
          let path := operands.headD "-"
          match ← readWhole path with
          | .error fault =>
            if fault = .isDirectory then
              complain (c.name ++ ": read error: " ++ fault.words)
            else unreadable c.name path fault
            return 1
          | .ok bytes =>
            if o.has 'd' then
              let text := bytes.toList.map fun b => Char.ofNat b.toNat
              let (characters, all) := c.readable (o.has 'i') text
              let (octets, fine) := c.decode (characters.length + 1) characters
              printBytes octets
              if all && fine then return 0
              complain (c.name ++ ": invalid input")
              return 1
            else
              let text := c.encode (bytes.size + 1) bytes.toList
              print (String.ofList
                (if width = 0 then text else wrapped width (text.length + 1) text))
              return 0)
    [("decode", 'd'), ("ignore-garbage", 'i'), ("wrap", 'w')]

/-- `base64` writes octets with 64 characters. -/
def base64 : Utility := recode coding64

/-- `base32` writes octets with 32 characters. -/
def base32 : Utility := recode coding32

end Assay.Shell
