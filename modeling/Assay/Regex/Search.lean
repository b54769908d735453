import Assay.Regex.Meaning
import Assay.Regex.Parser
import Assay.Regex.Program
import Assay.Regex.Space

/-!
# Searching for a match

All threads of a program go through the text together, one character at a time, in order of
preference and at most one at each instruction. The match found is the leftmost, and of those that
start there the preferred one. A position is looked at once, so a search takes time in proportion to
the lengths of program and text.
-/

namespace Assay.Regex

open Unicode

/-- A thread: its address and where its match starts. -/
structure Thread where
  address : Nat
  start : Nat

/-- The characters around a position. -/
structure Context where
  before : Option Char
  after : Option Char

/-- Whether a neighbouring character is one of a word. -/
def isWordAt (unicode : Bool) : Option Char → Bool
  | none => false
  | some c => if c.toNat < 0x80 then asciiWord.has c.toNat else unicode && word.has c.toNat

/-- Whether a condition holds between two characters. -/
def Anchor.holds (x : Context) : Anchor → Bool
  | .textStart => x.before.isNone
  | .textEnd => x.after.isNone
  | .lineStart crlf =>
    x.before.isNone || x.before = some '\n' ||
      (crlf && x.before = some '\r' && x.after ≠ some '\n')
  | .lineEnd crlf =>
    x.after.isNone ||
      (if crlf then x.after = some '\r' || (x.after = some '\n' && x.before ≠ some '\r')
        else x.after = some '\n')
  | .wordBoundary u => isWordAt u x.before != isWordAt u x.after
  | .noWordBoundary u => isWordAt u x.before == isWordAt u x.after
  | .wordStart u => !isWordAt u x.before && isWordAt u x.after
  | .wordEnd u => isWordAt u x.before && !isWordAt u x.after
  | .wordStartHalf u => !isWordAt u x.before
  | .wordEndHalf u => !isWordAt u x.after

/-- The threads of one position: those that wait for a character, in reverse order of preference,
and the addresses that were visited. -/
structure Round where
  waiting : List Thread := []
  visited : Array Bool
  /-- Where the match started that was accepted, if one was. -/
  accepted : Option Nat := none

/-- Follows the addresses on the stack through the instructions that take no character. Each address
is visited once and puts at most two on the stack, which bounds the number of steps. -/
def follow (code : Code) (x : Context) (start : Nat) : (fuel : Nat) → List Nat → Round → Round
  | 0, _, r => r
  | _, [], r => r
  | fuel + 1, a :: stack, r =>
    if r.accepted.isSome || r.visited.getD a true then follow code x start fuel stack r
    else
      let r := { r with visited := r.visited.setIfInBounds a true }
      match code[a]? with
      | none => follow code x start fuel stack r
      | some (.chars ..) =>
        follow code x start fuel stack { r with waiting := ⟨a, start⟩ :: r.waiting }
      | some (.look anchor next) =>
        follow code x start fuel (if anchor.holds x then next :: stack else stack) r
      | some (.split first second) => follow code x start fuel (first :: second :: stack) r
      | some .accept => { r with accepted := some start }

/-- Follows all threads, in order of preference, until one accepts. -/
def followAll (p : Program) (x : Context) : List Thread → Round → Round
  | [], r => r
  | t :: rest, r =>
    if r.accepted.isSome then r
    else followAll p x rest (follow p.code x t.start (2 * p.code.size + 2) [t.address] r)

/-- The threads that go on behind a character. -/
def advance (code : Code) (c : Char) (threads : List Thread) : List Thread :=
  threads.filterMap fun (t : Thread) =>
    match code[t.address]? with
    | some (Instr.chars set next) =>
      if set.has c.toNat then some { t with address := next } else none
    | _ => none

/-- Searches on from a position, with the threads that came there and the best match so far. -/
def searchFrom (p : Program) (threads : List Thread) (before : Option Char) (position : Nat)
    (best : Option (Nat × Nat)) : List Char → Option (Nat × Nat)
  | [] =>
    let threads := if best.isNone then threads ++ [⟨p.start, position⟩] else threads
    let r := followAll p ⟨before, none⟩ threads { visited := .replicate p.code.size false }
    match r.accepted with
    | some start => some (start, position)
    | none => best
  | c :: s =>
    let threads := if best.isNone then threads ++ [⟨p.start, position⟩] else threads
    if threads.isEmpty then best
    else
      let r := followAll p ⟨before, some c⟩ threads { visited := .replicate p.code.size false }
      let best := match r.accepted with
        | some start => some (start, position)
        | none => best
      searchFrom p (advance p.code c r.waiting.reverse) (some c) (position + 1) best s

/-- Why a text cannot be used as a regular expression. -/
inductive Fault where
  /-- The text writes no pattern. -/
  | malformed
  /-- The pattern takes too much space. -/
  | tooBig
deriving DecidableEq

/-- A fault in words. -/
def Fault.message : Fault → String
  | .malformed => "regex parse error:"
  | .tooBig =>
    "Compiled regex exceeds size limit of " ++ toString Space.limit ++ " bytes."

/-- The program of a regular expression. -/
def compile (s : String) : Except Fault Program :=
  match (Syntax.parse? s).bind Syntax.pattern? with
  | none => .error .malformed
  | some p => if p.isSmall then .ok (.ofPattern p) else .error .tooBig

/-- The text of the match in a text, if there is one. -/
def Program.find? (p : Program) (s : String) : Option String :=
  let cs := s.toList
  (searchFrom p [] none 0 none cs).map fun (start, stop) =>
    String.ofList ((cs.drop start).take (stop - start))

end Assay.Regex
