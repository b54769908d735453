import Assay.Utility.Coding

/-!
# Checksums

Numbers that stand for octets: they are the same for the same octets, and hardly ever for others.
The octets are filled up to whole blocks, and each block is mixed into a state of several words.

The constants of the mixing are digits of roots of primes behind the point, or of sines.
-/

namespace Assay.Digest

open Shell

/-! ## Words -/

/-- A word of some bits turned to the left. -/
def turnLeft (bits n x : Nat) : Nat :=
  (x <<< n ||| x >>> (bits - n)) % Nat.pow 2 bits

/-- A word of some bits turned to the right. -/
def turnRight (bits n x : Nat) : Nat :=
  turnLeft bits (bits - n) x

/-- A word of some bits with all of them changed. -/
def opposite (bits x : Nat) : Nat :=
  Nat.pow 2 bits - 1 - x % Nat.pow 2 bits

/-- The greatest number whose power is not greater than another one, found bit by bit. -/
def rootFloor (power n : Nat) : (bits : Nat) → (found : Nat) → Nat
  | 0, found => found
  | bits + 1, found =>
    let next := found + Nat.pow 2 bits
    rootFloor power n bits (if Nat.pow next power ≤ n then next else found)

/-- The first 64 bits behind the point of a root. -/
def rootDigits (power n : Nat) : Nat :=
  rootFloor power (n * Nat.pow 2 (64 * power)) 74 0 % Nat.pow 2 64

/-- Whether a number is prime. -/
def isPrime (n : Nat) : Bool :=
  2 ≤ n && (List.range n).all fun d => d < 2 || n % d ≠ 0

/-- The first 80 primes. -/
def primes : List Nat :=
  ((List.range 410).filter isPrime).take 80

/-- The constants of the rounds: digits of cube roots. -/
def cubeDigits : Array Nat :=
  (primes.map (rootDigits 3)).toArray

/-- The words at the beginning: digits of square roots. -/
def squareDigits : List Nat :=
  (primes.take 16).map (rootDigits 2)

/-! ## Blocks -/

/-- Octets filled up to whole blocks, with how many bits they are at the end; `field` octets are for
that. -/
def filledUp (block field : Nat) (big : Bool) (bytes : List UInt8) : List UInt8 :=
  let size := bytes.length
  let zeros := (block - (size + 1 + field) % block) % block
  let length := bigOctets field (8 * size)
  bytes ++ 0x80 :: List.replicate zeros 0 ++ if big then length else length.reverse

/-- The words of octets. -/
def wordsOf (size : Nat) (big : Bool) (bytes : List UInt8) : Array Nat :=
  ((inGroups size bytes.length bytes).map fun g =>
    if big then bigNumber g else littleNumber g).toArray

/-- Mixes the blocks of octets into a state one after the other; of at most so many blocks. -/
def mixBlocks (block : Nat) (mix : List Nat → List UInt8 → List Nat) :
    (fuel : Nat) → (state : List Nat) → List UInt8 → List Nat
  | 0, state, _ => state
  | fuel + 1, state, bytes =>
    if bytes.isEmpty then state
    else mixBlocks block mix fuel (mix state (bytes.take block)) (bytes.drop block)

/-- Octets in hexadecimal digits. -/
def inHex (bytes : List UInt8) : String :=
  "".intercalate (bytes.map fun b => inDigits 16 2 b.toNat)

/-! ## The mixings -/

/-- The sizes of words and the turns of a mixing of the second family. -/
structure Mixing where
  bits : Nat
  rounds : Nat
  upper : Nat × Nat × Nat
  lower : Nat × Nat × Nat
  /-- Two turns and a shift. -/
  early : Nat × Nat × Nat
  late : Nat × Nat × Nat

/-- The mixing with words of 32 bits. -/
def narrow : Mixing where
  bits := 32
  rounds := 64
  upper := (2, 13, 22)
  lower := (6, 11, 25)
  early := (7, 18, 3)
  late := (17, 19, 10)

/-- The mixing with words of 64 bits. -/
def wide : Mixing where
  bits := 64
  rounds := 80
  upper := (28, 34, 39)
  lower := (14, 18, 41)
  early := (1, 8, 7)
  late := (19, 61, 6)

/-- A word turned in three ways. -/
def Mixing.turned (m : Mixing) (t : Nat × Nat × Nat) (x : Nat) : Nat :=
  turnRight m.bits t.1 x ^^^ turnRight m.bits t.2.1 x ^^^ turnRight m.bits t.2.2 x

/-- A word turned in two ways and shifted. -/
def Mixing.shifted (m : Mixing) (t : Nat × Nat × Nat) (x : Nat) : Nat :=
  turnRight m.bits t.1 x ^^^ turnRight m.bits t.2.1 x ^^^ x >>> t.2.2

/-- The words of all rounds: those of a block, and others that are mixed from those in front. -/
def Mixing.schedule (m : Mixing) (block : Array Nat) : Array Nat :=
  (List.range (m.rounds - 16)).foldl
    (fun ws i =>
      let word (j : Nat) : Nat := (ws[i + j]?).getD 0
      ws.push ((m.shifted m.late (word 14) + word 9 + m.shifted m.early (word 1) + word 0) %
        Nat.pow 2 m.bits))
    block

/-- One round. -/
def Mixing.round (m : Mixing) (state : List Nat) (constant word : Nat) : List Nat :=
  match state with
  | [a, b, c, d, e, f, g, h] =>
    let choice := (e &&& f) ^^^ (opposite m.bits e &&& g)
    let majority := (a &&& b) ^^^ (a &&& c) ^^^ (b &&& c)
    let t := h + m.turned m.lower e + choice + constant + word
    let size := Nat.pow 2 m.bits
    [(t + m.turned m.upper a + majority) % size, a, b, c, (d + t) % size, e, f, g]
  | state => state

/-- Words added one by one. -/
def added (bits : Nat) (a b : List Nat) : List Nat :=
  a.zipWith (fun x y => (x + y) % Nat.pow 2 bits) b

/-- Mixes a block into a state. -/
def Mixing.mix (m : Mixing) (state : List Nat) (block : List UInt8) : List Nat :=
  let ws := m.schedule (wordsOf (m.bits / 8) true block)
  let mixed := (List.range m.rounds).foldl
    (fun s i =>
      m.round s ((cubeDigits[i]?).getD 0 >>> (64 - m.bits)) ((ws[i]?).getD 0))
    state
  added m.bits state mixed

/-- The checksum of a mixing from a state on, of so many octets. -/
def Mixing.digest (m : Mixing) (start : List Nat) (length : Nat) (bytes : List UInt8) :
    List UInt8 :=
  let block := 2 * m.bits
  let filled := filledUp block (m.bits / 4) true bytes
  let state := mixBlocks block m.mix filled.length start filled
  (state.flatMap (bigOctets (m.bits / 8))).take length

/-- Mixes a block into a state of five words. -/
def mixFive (state : List Nat) (block : List UInt8) : List Nat :=
  let ws := (List.range 64).foldl
    (fun (ws : Array Nat) i =>
      let word (j : Nat) : Nat := (ws[i + j]?).getD 0
      ws.push (turnLeft 32 1 (word 13 ^^^ word 8 ^^^ word 2 ^^^ word 0)))
    (wordsOf 4 true block)
  let round (s : List Nat) (i : Nat) : List Nat :=
    match s with
    | [a, b, c, d, e] =>
      let (f, k) :=
        if i < 20 then ((b &&& c) ||| (opposite 32 b &&& d), 0x5A827999)
        else if i < 40 then (b ^^^ c ^^^ d, 0x6ED9EBA1)
        else if i < 60 then ((b &&& c) ||| (b &&& d) ||| (c &&& d), 0x8F1BBCDC)
        else (b ^^^ c ^^^ d, 0xCA62C1D6)
      let t := (turnLeft 32 5 a + f + e + k + (ws[i]?).getD 0) % Nat.pow 2 32
      [t, a, turnLeft 32 30 b, c, d]
    | s => s
  added 32 state ((List.range 80).foldl round state)

/-- The constants of the rounds with four words: sines. -/
def sines : Array Nat :=
  #[0xd76aa478, 0xe8c7b756, 0x242070db, 0xc1bdceee, 0xf57c0faf, 0x4787c62a, 0xa8304613, 0xfd469501,
    0x698098d8, 0x8b44f7af, 0xffff5bb1, 0x895cd7be, 0x6b901122, 0xfd987193, 0xa679438e, 0x49b40821,
    0xf61e2562, 0xc040b340, 0x265e5a51, 0xe9b6c7aa, 0xd62f105d, 0x02441453, 0xd8a1e681, 0xe7d3fbc8,
    0x21e1cde6, 0xc33707d6, 0xf4d50d87, 0x455a14ed, 0xa9e3e905, 0xfcefa3f8, 0x676f02d9, 0x8d2a4c8a,
    0xfffa3942, 0x8771f681, 0x6d9d6122, 0xfde5380c, 0xa4beea44, 0x4bdecfa9, 0xf6bb4b60, 0xbebfbc70,
    0x289b7ec6, 0xeaa127fa, 0xd4ef3085, 0x04881d05, 0xd9d4d039, 0xe6db99e5, 0x1fa27cf8, 0xc4ac5665,
    0xf4292244, 0x432aff97, 0xab9423a7, 0xfc93a039, 0x655b59c3, 0x8f0ccc92, 0xffeff47d, 0x85845dd1,
    0x6fa87e4f, 0xfe2ce6e0, 0xa3014314, 0x4e0811a1, 0xf7537e82, 0xbd3af235, 0x2ad7d2bb, 0xeb86d391]

/-- The turns of the rounds with four words. -/
def turns : Array Nat :=
  #[7, 12, 17, 22, 5, 9, 14, 20, 4, 11, 16, 23, 6, 10, 15, 21]

/-- Mixes a block into a state of four words. -/
def mixFour (state : List Nat) (block : List UInt8) : List Nat :=
  let ws := wordsOf 4 false block
  let round (s : List Nat) (i : Nat) : List Nat :=
    match s with
    | [a, b, c, d] =>
      let (f, place) := match i / 16 with
        | 0 => ((b &&& c) ||| (opposite 32 b &&& d), i)
        | 1 => ((d &&& b) ||| (opposite 32 d &&& c), 5 * i + 1)
        | 2 => (b ^^^ c ^^^ d, 3 * i + 5)
        | _ => (c ^^^ (b ||| opposite 32 d), 7 * i)
      let t := a + f + (sines[i]?).getD 0 + (ws[place % 16]?).getD 0
      let turn := (turns[i / 16 * 4 + i % 4]?).getD 0
      [d, (b + turnLeft 32 turn (t % Nat.pow 2 32)) % Nat.pow 2 32, b, c]
    | s => s
  added 32 state ((List.range 64).foldl round state)

/-- The words at the beginning of the mixings with four and five words. -/
def plainStart : List Nat :=
  [0x67452301, 0xefcdab89, 0x98badcfe, 0x10325476, 0xc3d2e1f0]

/-! ## The checksums -/

/-- A kind of checksum: the name of its utility, its own name, and how it is computed. -/
structure Checksum where
  utility : String
  label : String
  compute : List UInt8 → List UInt8

/-- All kinds. -/
def kinds : List Checksum :=
  let second := squareDigits.drop 8
  let first := squareDigits.take 8
  [⟨"md5sum", "MD5", fun bytes =>
      let filled := filledUp 64 8 false bytes
      (mixBlocks 64 mixFour filled.length (plainStart.take 4) filled).flatMap fun w =>
        (bigOctets 4 w).reverse⟩,
    ⟨"sha1sum", "SHA1", fun bytes =>
      let filled := filledUp 64 8 true bytes
      (mixBlocks 64 mixFive filled.length plainStart filled).flatMap (bigOctets 4)⟩,
    ⟨"sha224sum", "SHA224", narrow.digest (second.map (· % Nat.pow 2 32)) 28⟩,
    ⟨"sha256sum", "SHA256", narrow.digest (first.map (· >>> 32)) 32⟩,
    ⟨"sha384sum", "SHA384", wide.digest second 48⟩,
    ⟨"sha512sum", "SHA512", wide.digest first 64⟩]

/-- A word of 32 bits with an octet mixed in, as division by a polynomial does. -/
def divide (word : Nat) (b : Nat) : Nat :=
  (List.range 8).foldl
    (fun w _ => if w.testBit 31 then (w <<< 1 % Nat.pow 2 32) ^^^ 0x04C11DB7 else w <<< 1)
    (word ^^^ (b <<< 24))

/-- The remainder of octets and how many they are. -/
def remainder (bytes : List UInt8) : Nat :=
  let size := bytes.length
  let length := ((bigOctets 8 size).dropWhile (· = 0)).reverse
  opposite 32 ((bytes ++ length).foldl (fun w b => divide w b.toNat) 0)

end Assay.Digest

namespace Assay.Shell

open Machine Host Digest

/-- The line that tells a checksum of a file. -/
def digestLine (o : Options) (kind : Checksum) (hash path : String) : String :=
  let strange := path.toList.any fun c => c = '\\' || c = '\n'
  let escaped := String.ofList (path.toList.flatMap fun c =>
    if c = '\\' then ['\\', '\\'] else if c = '\n' then ['\\', 'n'] else [c])
  let (front, shown) := if strange && !o.has 'z' then ("\\", escaped) else ("", path)
  front ++
    (if o.has 'T' then kind.label ++ " (" ++ shown ++ ") = " ++ hash
      else hash ++ (if o.has 'b' then " *" else "  ") ++ shown) ++
    if o.has 'z' then "\x00" else "\n"

/-- The checksum and the path that a line tells. -/
def toldDigest? (kind : Checksum) (line : String) : Option (String × String) :=
  let cs := line.toList
  let size := 2 * (kind.compute []).length
  let isHex (c : Char) : Bool := c.isDigit || ('a' ≤ c && c ≤ 'f') || ('A' ≤ c && c ≤ 'F')
  let label := (kind.label ++ " (").toList
  if label.isPrefixOf cs then
    let rest := cs.drop label.length
    let hash := (rest.reverse.takeWhile isHex).reverse
    let front := rest.take (rest.length - hash.length)
    if hash.length = size && (String.ofList front).endsWith ") = " then
      some (String.ofList hash, String.ofList (front.take (front.length - 4)))
    else none
  else
    let hash := cs.takeWhile isHex
    match cs.drop hash.length with
    | ' ' :: c :: path =>
      if hash.length = size && !path.isEmpty then
        some (String.ofList hash, String.ofList (if c = ' ' || c = '*' then path else c :: path))
      else none
    | _ => none

/-- How many lines of each kind there were when checksums were looked at. -/
structure Verified where
  right : Nat := 0
  wrong : Nat := 0
  missing : Nat := 0
  malformed : Nat := 0

/-- Says how many of something there were. -/
def warnCount (utility : String) (n : Nat) (one many : String) : Eval Unit := do
  if n > 0 then
    complain (utility ++ ": WARNING: " ++ toString n ++ " " ++ if n = 1 then one else many)

/-- Looks whether the files that lines name have the checksums that they tell. -/
def verifyDigests (o : Options) (kind : Checksum) (path : String) : Eval Bool := do
  match ← readWhole path with
  | .error fault =>
    unreadable kind.utility path fault
    return false
  | .ok bytes =>
    let mut v : Verified := {}
    let mut number := 0
    for line in bareLines bytes.toList do
      number := number + 1
      match toldDigest? kind (Text.decodeLossy ⟨line.toArray⟩) with
      | none =>
        v := { v with malformed := v.malformed + 1 }
        if o.has 'w' then
          complain (kind.utility ++ ": " ++ path ++ ": " ++ toString number ++
            ": improperly formatted " ++ kind.label ++ " checksum line")
      | some (hash, file) =>
        match ← readWhole file with
        | .error fault =>
          if !(o.has 'm' && fault = .missing) then
            v := { v with missing := v.missing + 1 }
            unreadable kind.utility file fault
            if !o.has 's' then printLine (file ++ ": FAILED open or read")
        | .ok contents =>
          let fine := inHex (kind.compute contents.toList) = hash.toLower
          v := if fine then { v with right := v.right + 1 } else { v with wrong := v.wrong + 1 }
          if !o.has 's' && !(fine && o.has 'q') then
            printLine (file ++ if fine then ": OK" else ": FAILED")
    if v.right + v.wrong + v.missing = 0 && v.malformed = number && !(o.has 'm' && number > 0) then
      complain (kind.utility ++ ": " ++ path ++ ": no properly formatted checksum lines found")
      return false
    if !o.has 's' then
      warnCount kind.utility v.malformed "line is improperly formatted"
        "lines are improperly formatted"
      warnCount kind.utility v.missing "listed file could not be read"
        "listed files could not be read"
      warnCount kind.utility v.wrong "computed checksum did NOT match"
        "computed checksums did NOT match"
    if o.has 'm' && v.right + v.wrong = 0 then
      if !o.has 's' then complain (kind.utility ++ ": " ++ path ++ ": no file was verified")
      return false
    return v.wrong = 0 && v.missing = 0 && !(o.has 'S' && v.malformed > 0)

/-- A utility that tells checksums of files, or looks whether they are as told. -/
def tellDigests (kind : Checksum) : Utility :=
  withOptions kind.utility "bctwzTsqmS" "" 1
    (fun o =>
      if o.has 'c' then forOperands (verifyDigests o kind) (orInput o.operands)
      else forOperands (fun path => do
        match ← readWhole path with
        | .ok bytes =>
          print (digestLine o kind (inHex (kind.compute bytes.toList)) path)
          return true
        | .error fault =>
          unreadable kind.utility path fault
          return false) (orInput o.operands))
    [("binary", 'b'), ("check", 'c'), ("text", 't'), ("tag", 'T'), ("zero", 'z'), ("warn", 'w'),
      ("status", 's'), ("quiet", 'q'), ("ignore-missing", 'm'), ("strict", 'S')]

/-- The utilities that tell checksums. -/
def digestUtilities : List (String × Utility) :=
  kinds.map fun kind => (kind.utility, tellDigests kind)

/-- `cksum` tells remainders of files and how long they are. -/
def cksum : Utility :=
  withOptions "cksum" "" "" 1 fun o =>
    forOperands (fun path => do
      match ← readWhole path with
      | .ok bytes =>
        let size := toString bytes.size
        printLine (toString (remainder bytes.toList) ++ " " ++ size ++
          if o.operands.isEmpty then "" else " " ++ path)
        return true
      | .error fault =>
        unreadable "cksum" path fault
        return false) (orInput o.operands)

end Assay.Shell
