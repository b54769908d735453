import Std.Data.HashMap
import Assay.Regex.Pattern

/-!
# The space that a pattern takes

A pattern is matched by two automata that go through a text octet by octet, one forwards and one
backwards. Each state takes a fixed space, with more for each of its ways out; a pattern whose
automata take too much is refused. The automata themselves are not needed, but their states are
counted exactly.

Sets of characters beyond ASCII are automata of their own, over the octets of their characters. In
them states with the same ways out are shared, as far as a table of limited size remembers them: it
has a fixed number of places, each of which holds the state stored there last.
-/

namespace Assay.Regex

open Unicode

/-- How many states there are, and how much space they take beyond a fixed size of each. -/
structure Space where
  states : Nat := 0
  more : Nat := 0

namespace Space

/-- The greatest space that an automaton may take. -/
def limit : Nat := 10485760

/-- The space in all. -/
def total (s : Space) : Nat :=
  32 * s.states + s.more

/-- The space with one more state. -/
def add (s : Space) (more : Nat := 0) : Space :=
  { states := s.states + 1, more := s.more + more }

/-- The space with one more state that chooses among `n` others. -/
def addChoice (s : Space) (n : Nat) : Space :=
  s.add (4 * n)

/-- The space with one more state that has `n` ways out by octets. -/
def addBranches (s : Space) (n : Nat) : Space :=
  s.add (8 * n)

/-- The space with one more way out of a choice. -/
def addWay (s : Space) : Space :=
  { s with more := s.more + 4 }

/-- What a step adds when it is done so many times, or until the space is too great. -/
def times (step : Space → Space) : Nat → Space → Space
  | 0, s => s
  | n + 1, s => if s.total > limit then s else times step n (step s)

end Space

/-! ## Octets of characters -/

/-- An interval of octets. -/
structure OctetRange where
  first : Nat
  last : Nat
deriving BEq

/-- The octets of a code point. -/
def encodeOctets (n : Nat) : List Nat :=
  if n < 0x80 then [n]
  else if n < 0x800 then [0xC0 + n / 64, 0x80 + n % 64]
  else if n < 0x10000 then [0xE0 + n / 4096, 0x80 + n / 64 % 64, 0x80 + n % 64]
  else [0xF0 + n / 262144, 0x80 + n / 4096 % 64, 0x80 + n / 64 % 64, 0x80 + n % 64]

/-- Where an interval of code points is cut next: behind the last code point with as many octets as
the first, or where the octets behind the first one do not go through all values. -/
def cut? (a b : Nat) : Option Nat :=
  let lengths := [0x7F, 0x7FF, 0xFFFF].find? fun top => a ≤ top && top < b
  let aligned (m : Nat) : Option Nat :=
    if a / m = b / m then none
    else if a % m ≠ 0 then some (a / m * m + m - 1)
    else if b % m ≠ m - 1 then some (b / m * m - 1)
    else none
  lengths <|> (if b ≤ 0x7F then none else aligned 64 <|> aligned 4096 <|> aligned 262144)

/-- The intervals of octets that an interval of code points takes, piece by piece; `fuel` bounds how
often it is cut. -/
def octetSequences (a b : Nat) : (fuel : Nat) → List (List OctetRange)
  | 0 => []
  | fuel + 1 =>
    match cut? a b with
    | some c => octetSequences a c fuel ++ octetSequences (c + 1) b fuel
    | none => [(encodeOctets a).zipWith OctetRange.mk (encodeOctets b)]

/-- The intervals of octets of all characters of a set. -/
def setSequences (set : Ranges) : List (List OctetRange) :=
  set.flatMap fun i => octetSequences i.first i.last 32

/-! ## Sharing states -/

/-- Mixes a number into a hash. -/
def mix (h : UInt64) (n : Nat) : UInt64 :=
  (h ^^^ UInt64.ofNat n) * 1099511628211

/-- A hash of numbers. -/
def hashOf (ns : List Nat) : UInt64 :=
  ns.foldl mix 14695981039346656037

/-- A way out of a state: the octets it takes, and the state it leads to. -/
structure Way where
  octets : OctetRange
  target : Nat
deriving BEq

/-- The states that are remembered, by their place. -/
abbrev Memory (κ : Type) := Std.HashMap Nat (κ × Nat)

/-! ### Forwards -/

/-- A state being built: its finished ways out in reverse, and the octets of the way out whose
target is still being built. -/
structure Unfinished where
  ways : List Way := []
  open? : Option OctetRange := none

/-- An automaton of a set being built: the path of unfinished states, the innermost one first, and
the states that are remembered. -/
structure Building where
  space : Space
  path : List Unfinished := [{}]
  memory : Memory (List Way) := {}

namespace Building

/-- A state with the open way out leading to a target. -/
def finishWay (u : Unfinished) (target : Nat) : Unfinished :=
  match u.open? with
  | some octets => { ways := ⟨octets, target⟩ :: u.ways }
  | none => u

/-- Adds a state with given ways out unless it is remembered. -/
def state (b : Building) (ways : List Way) : Nat × Building :=
  let hash := hashOf (ways.flatMap fun w => [w.octets.first, w.octets.last, w.target])
  let place := (hash % 10000).toNat
  let fresh : Nat × Building :=
    (b.space.states,
      { b with
        space := b.space.addBranches ways.length
        memory := b.memory.insert place (ways, b.space.states) })
  match b.memory[place]? with
  | some (known, id) => if known == ways then (id, b) else fresh
  | none => fresh

/-- Finishes the states at the end of the path, so many of them, the last of which leads to a
target; then finishes the way out of the state in front of them. -/
def finish (b : Building) (target : Nat) : (count : Nat) → Building
  | 0 =>
    match b.path with
    | u :: rest => { b with path := finishWay u target :: rest }
    | [] => b
  | count + 1 =>
    match b.path with
    | u :: rest =>
      let (id, b) := { b with path := rest }.state (finishWay u target).ways.reverse
      b.finish id count
    | [] => b

/-- How many intervals in front of a sequence are those of the open ways of a path, given from its
beginning. -/
def shared : List OctetRange → List Unfinished → Nat
  | r :: rs, u :: us => if u.open? == some r then shared rs us + 1 else 0
  | _, _ => 0

/-- Adds a sequence of octets; sequences come in ascending order. -/
def sequence (target : Nat) (b : Building) (rs : List OctetRange) : Building :=
  let common := shared rs b.path.reverse
  let b := b.finish target (b.path.length - (common + 1))
  match rs.drop common, b.path with
  | r :: more, u :: rest =>
    { b with
      path :=
        more.foldl (fun path r => { open? := some r } :: path) ({ u with open? := r } :: rest) }
  | _, _ => b

end Building

/-- The space of the automaton of a set, forwards. -/
def forwardSet (set : Ranges) (s : Space) : Space :=
  let target := s.states
  let b := (setSequences set).foldl (Building.sequence target) { space := s.add }
  let b := b.finish target (b.path.length - 1)
  match b.path with
  | [u] => (b.state u.ways.reverse).2.space
  | _ => b.space

/-! ### Backwards -/

/-- What identifies a state that takes one interval of octets: the state behind it, and the octets.
-/
structure Suffix where
  behind : Nat
  octets : OctetRange
deriving BEq

/-- Adds the states of a sequence of octets in front of a state, as far as they are not remembered.
-/
def suffixStates (s : Space) (memory : Memory Suffix) (behind : Nat) :
    List OctetRange → Space × Memory Suffix
  | [] => (s, memory)
  | r :: rs =>
    let place := (hashOf [behind, r.first, r.last] % 1000).toNat
    let key : Suffix := ⟨behind, r⟩
    let known := (memory[place]?).bind fun (k, id) => if k == key then some id else none
    match known with
    | some id => suffixStates s memory id rs
    | none => suffixStates s.add (memory.insert place (key, s.states)) s.states rs

/-- The space of the automaton of a set, backwards. -/
def backwardSet (set : Ranges) (s : Space) : Space :=
  let behind := s.states + 1
  let added := (setSequences set).foldl (fun (acc : Space × Memory Suffix) rs =>
    let (s, memory) := suffixStates acc.1 acc.2 behind rs
    (s.addWay, memory)) (s.add.add, {})
  added.1

/-! ## Alternatives of texts -/

/-- The texts of a choice by their beginnings. Texts that end at a node part the ways that were
there before from those that came after. -/
inductive Trie where
  | node (earlier : List (List (Nat × Trie))) (ways : List (Nat × Trie))

namespace Trie

/-- Whether no text goes on. -/
def isLeaf : Trie → Bool
  | .node earlier ways => ways.isEmpty && earlier.all List.isEmpty

/-- The text that ends here is put to those below. -/
def close : Trie → Trie
  | .node earlier ways =>
    if (Trie.node earlier ways).isLeaf && !earlier.isEmpty then .node earlier ways
    else .node (earlier ++ [ways]) []

/-- Puts a way behind those with smaller octets. -/
def insertWay (octet : Nat) (t : Trie) : List (Nat × Trie) → List (Nat × Trie)
  | [] => [(octet, t)]
  | w :: rest =>
    if w.1 < octet then w :: insertWay octet t rest
    else if w.1 = octet then (octet, t) :: rest
    else (octet, t) :: w :: rest

/-- The texts with one more. -/
def insert : List Nat → Trie → Trie
  | [], t => t.close
  | o :: os, .node earlier ways =>
    .node earlier (insertWay o (insert os ((ways.lookup o).getD (.node [] []))) ways)

mutual

/-- The space of the states at a node and below. -/
def space : Trie → Space → Space
  | .node earlier ways, s =>
    let (n, s) := spaceOfChunks earlier s
    let s := spaceOfWays ways s
    let (n, s) := if ways.isEmpty then (n, s) else (n + 1, chunk ways.length s)
    if n = 1 then s else s.addChoice n

/-- The space below the ways that were there before texts ended, and how many states are chosen
from. -/
def spaceOfChunks : List (List (Nat × Trie)) → Space → Nat × Space
  | [], s => (0, s)
  | ways :: rest, s =>
    let s := spaceOfWays ways s
    let s := if ways.isEmpty then s else chunk ways.length s
    let (n, s) := spaceOfChunks rest s
    (n + (if ways.isEmpty then 1 else 2), s)

/-- The space of the states that ways lead to. -/
def spaceOfWays : List (Nat × Trie) → Space → Space
  | [], s => s
  | (_, t) :: rest, s => spaceOfWays rest (if t.isLeaf then s else t.space s)

/-- The space of the state of some ways. -/
def chunk (n : Nat) (s : Space) : Space :=
  if n = 1 then s.add else s.addBranches n

end

end Trie

/-- The octets of the characters of a text. -/
def textOctets (cs : List Char) : List Nat :=
  cs.flatMap fun c => encodeOctets c.toNat

/-- The texts of a choice among nothing but texts. -/
def texts? (ps : List Pattern) : Option (List (List Char)) :=
  ps.mapM fun
    | .text cs => some cs
    | _ => none

/-- The space of a choice among texts. -/
def textsSpace (backward : Bool) (texts : List (List Char)) (s : Space) : Space :=
  let words := texts.map fun cs =>
    if backward then (textOctets cs).reverse else textOctets cs
  (words.foldl (fun t w => t.insert w) (Trie.node [] [])).space s.add

/-! ## Patterns -/

namespace Pattern

mutual

/-- The space with the automaton of a pattern, in one direction. -/
def space (backward : Bool) : Pattern → Space → Space
  | .empty, s | .anchor _, s => s.add
  | .text cs, s => { s with states := s.states + (textOctets cs).length }
  | .chars set, s =>
    if set.all fun i => i.last < 0x80 then s.add.addBranches set.length
    else if backward then backwardSet set s
    else forwardSet set s
  | .seq ps, s => if backward then seqBackward ps s else seqForward ps s
  | .alt ps, s =>
    match texts? ps with
    | some texts => textsSpace backward texts s
    | none => (altSpace backward ps s).addChoice ps.length |>.add
  | .rep p least most _, s =>
    let one := p.space backward
    match most with
    | none =>
      if least > 0 then (s.times one least).addChoice 2
      else if (p.minLength.getD 0) > 0 then (one s).addChoice 2
      else ((one s).addChoice 2).addChoice 2 |>.add
    | some most =>
      if least = 0 && most = 1 then (one s).addChoice 2 |>.add
      else if least = most then s.times one least
      else
        let s := if least = 0 then s.add else s.times one least
        s.add.times (fun s => (one s).addChoice 2) (most - least)
  | .capture _ p, s => if backward then p.space backward s else (p.space backward s.add).add

/-- The space with parts one behind the other. -/
def seqForward : List Pattern → Space → Space
  | [], s => s
  | p :: rest, s => if s.total > Space.limit then s else seqForward rest (p.space false s)

/-- The space with parts one in front of the other. -/
def seqBackward : List Pattern → Space → Space
  | [], s => s
  | p :: rest, s =>
    let s := seqBackward rest s
    if s.total > Space.limit then s else p.space true s

/-- The space with the alternatives of a choice. -/
def altSpace (backward : Bool) : List Pattern → Space → Space
  | [], s => s
  | p :: rest, s =>
    if s.total > Space.limit then s else altSpace backward rest (p.space backward s)

end

/-- The space of the whole automaton: the states that let a match begin anywhere unless it must
begin at an end of the text, those that remember where the match is, the pattern, and the match. -/
def automatonSpace (backward : Bool) (p : Pattern) : Space :=
  let fixed := if backward then p.endsWith .textEnd else p.beginsWith .textStart
  let start : Space := if fixed then Space.add {} else ((Space.add {}).addChoice 2).addBranches 1
  (space backward (if backward then p else .capture 0 p) start).add

/-- Whether both automata of a pattern take as little space as they must. -/
def isSmall (p : Pattern) : Bool :=
  (p.automatonSpace false).total ≤ Space.limit && (p.automatonSpace true).total ≤ Space.limit

end Pattern

end Assay.Regex
