import Assay.Regex.Pattern

/-!
# Patterns as programs

A pattern is compiled to a list of instructions. A thread that stands at a `split` goes on at both
targets, and prefers the first; so among threads in order of preference the first to accept is the
preferred match. Programs are built from the back: compiling takes the address to go on at and gives
the address to start from.
-/

namespace Assay.Regex

open Unicode

/-- One step of a program. -/
inductive Instr where
  | chars (set : Ranges) (next : Nat)
  | look (a : Anchor) (next : Nat)
  | split (first second : Nat)
  | accept

/-- The instructions of a program by address. -/
abbrev Code := Array Instr

namespace Code

/-- The code with one more instruction, and its address. -/
def emit (code : Code) (i : Instr) : Nat × Code :=
  (code.size, code.push i)

/-- A choice between going on at `body` and at `next`; the greedy one prefers `body`. -/
def choice (greedy : Bool) (body next : Nat) : Instr :=
  if greedy then .split body next else .split next body

end Code

/-- Compiles copies of something, one behind the other. -/
def copies (one : Nat → Code → Nat × Code) : (count next : Nat) → Code → Nat × Code
  | 0, next, code => (next, code)
  | n + 1, next, code =>
    let (start, code) := one next code
    copies one n start code

/-- Compiles nested optional copies: each may be left out with all behind it. -/
def optionals (one : Nat → Code → Nat × Code) (greedy : Bool) (exit : Nat) :
    (count next : Nat) → Code → Nat × Code
  | 0, next, code => (next, code)
  | n + 1, next, code =>
    let (start, code) := one next code
    let (choice, code) := code.emit (Code.choice greedy start exit)
    optionals one greedy exit n choice code

/-- Compiles one or more rounds: the start of a round, and the choice behind it. -/
def rounds (one : Nat → Code → Nat × Code) (greedy : Bool) (next : Nat) (code : Code) :
    Nat × Nat × Code :=
  let (loop, code) := code.emit .accept
  let (start, code) := one loop code
  (start, loop, code.setIfInBounds loop (Code.choice greedy start next))

/-- Compiles the characters of a text, the last one first. -/
def textCode (cs : List Char) (next : Nat) (code : Code) : Nat × Code :=
  cs.foldr (fun c (next, code) => code.emit (.chars [⟨c.toNat, c.toNat⟩] next)) (next, code)

/-- Whether every match of a pattern is known to take a character. -/
def Pattern.takesCharacter (p : Pattern) : Bool :=
  p.minLength.any (· > 0)

namespace Pattern

mutual

/-- Compiles a pattern that goes on at `next`. Rounds that may be empty are entered by a choice of
their own, so that an empty round ends the repetition. -/
def compile : Pattern → (next : Nat) → Code → Nat × Code
  | .empty, next, code => (next, code)
  | .text cs, next, code => textCode cs next code
  | .chars set, next, code => code.emit (.chars set next)
  | .anchor a, next, code => code.emit (.look a next)
  | .seq parts, next, code => compileSeq parts next code
  | .alt alternatives, next, code => compileAlt alternatives next code
  | .rep p 0 none greedy, next, code =>
    let (start, loop, code) := rounds p.compile greedy next code
    if p.takesCharacter then (loop, code) else code.emit (Code.choice greedy start next)
  | .rep p (n + 1) none greedy, next, code =>
    let (start, _, code) := rounds p.compile greedy next code
    copies p.compile n start code
  | .rep p least (some most) greedy, next, code =>
    let (start, code) := optionals p.compile greedy next (most - least) next code
    copies p.compile least start code
  | .capture _ p, next, code => p.compile next code

/-- Compiles parts one behind the other. -/
def compileSeq : List Pattern → (next : Nat) → Code → Nat × Code
  | [], next, code => (next, code)
  | p :: rest, next, code =>
    let (start, code) := compileSeq rest next code
    p.compile start code

/-- Compiles alternatives, the first of which is preferred; without any there is no match. -/
def compileAlt : List Pattern → (next : Nat) → Code → Nat × Code
  | [], _, code => code.emit (.chars [] 0)
  | [p], next, code => p.compile next code
  | p :: rest, next, code =>
    let (first, code) := p.compile next code
    let (second, code) := compileAlt rest next code
    code.emit (.split first second)

end

end Pattern

/-- A program: its code and where it starts. -/
structure Program where
  code : Code
  start : Nat

/-- The program of a pattern. -/
def Program.ofPattern (p : Pattern) : Program :=
  let (last, code) := Code.emit #[] .accept
  let (start, code) := p.compile last code
  { code, start }

end Assay.Regex
