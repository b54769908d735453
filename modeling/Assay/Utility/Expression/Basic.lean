/-!
# Regular expressions of utilities

What `grep`, `sed` and `awk` look for in octets. An expression is compiled to steps, and the steps
are followed by threads in the order of preference: all threads take an octet at the same time, and
of several that stand at the same step only the first goes on. The match that begins first is
found, of those the longest, and of those the one that is preferred.
-/

namespace Assay.Expression

/-- A set of octets. -/
structure ByteSet where
  members : List UInt8
  /-- Whether it is all octets but the members. -/
  complement : Bool := false

/-- Whether an octet is in a set. -/
def ByteSet.contains (s : ByteSet) (b : UInt8) : Bool :=
  s.members.contains b != s.complement

/-- An octet as a small letter. -/
def small (b : UInt8) : UInt8 :=
  if 65 ≤ b && b ≤ 90 then b + 32 else b

/-- An octet as a capital letter. -/
def capital (b : UInt8) : UInt8 :=
  if 97 ≤ b && b ≤ 122 then b - 32 else b

/-- A set that does not tell small from capital letters. -/
def ByteSet.folded (s : ByteSet) : ByteSet :=
  { s with members := s.members ++ s.members.map small ++ s.members.map capital }

/-- What holds at a place between octets. -/
inductive Anchor where
  | lineStart
  | lineEnd
  | textStart
  | textEnd
  | wordStart
  | wordEnd
  | wordBoundary
  | noBoundary
  /-- The octet in front belongs to no word. -/
  | noWordBefore
  /-- The octet behind belongs to no word. -/
  | noWordBehind
deriving DecidableEq

/-- An expression. -/
inductive Form where
  | empty
  | octet (set : ByteSet)
  | anchor (a : Anchor)
  | sequence (a b : Form)
  | either (a b : Form)
  /-- So many times at least, and at most if there is a limit. -/
  | repeated (e : Form) (least : Nat) (most : Option Nat)
  | group (number : Nat) (e : Form)
  /-- What a group matched. -/
  | again (number : Nat)

/-- Why a text is no expression. -/
inductive FormFault where
  /-- A bracket without anything in it. -/
  | bareBracket
  | openBracket
  | openGroup
  | closedGroup
  | openBrace
  | badBrace
  /-- A repetition at most fewer times than at least. -/
  | badBounds
  | tooBig
  | badRange
  | badClass
  | badCollation
  /-- The name of a class that is in one pair of brackets only. -/
  | bareClass
  | badReference
  | nothingToRepeat
  | trailingBackslash
deriving DecidableEq

/-- A fault in words. -/
def FormFault.message : FormFault → String
  | bareBracket => "Invalid regular expression"
  | openBracket => "Unmatched [, [^, [:, [., or [="
  | openGroup => "Unmatched ( or \\("
  | closedGroup => "Unmatched ) or \\)"
  | openBrace => "Unmatched \\\x7b"
  | badBrace | badBounds => "Invalid content of \\\x7b\\\x7d"
  | tooBig => "Regular expression too big"
  | badRange => "Invalid range end"
  | badClass => "Invalid character class name"
  | badCollation => "Invalid collation character"
  | bareClass => "character class syntax is [[:space:]], not [:space:]"
  | badReference => "Invalid back reference"
  | nothingToRepeat => "Invalid preceding regular expression"
  | trailingBackslash => "Trailing backslash"

/-! ## Steps -/

/-- A step of a compiled expression; steps are named by their places. -/
inductive Step where
  | take (set : ByteSet) (next : Nat)
  /-- Goes on at the first step, and with less preference at the second. -/
  | fork (first second : Nat)
  | save (slot next : Nat)
  | check (a : Anchor) (next : Nat)
  | again (number next : Nat)
  | done

/-- Adds the steps of an expression in front of a step; the steps, and where they begin. -/
def Form.compile : Form → (next : Nat) → Array Step → Array Step × Nat
  | .empty, next, steps => (steps, next)
  | .octet set, next, steps => (steps.push (.take set next), steps.size)
  | .anchor a, next, steps => (steps.push (.check a next), steps.size)
  | .again n, next, steps => (steps.push (.again n next), steps.size)
  | .sequence a b, next, steps =>
    let (steps, middle) := b.compile next steps
    a.compile middle steps
  | .either a b, next, steps =>
    let (steps, first) := a.compile next steps
    let (steps, second) := b.compile next steps
    (steps.push (.fork first second), steps.size)
  | .group n e, next, steps =>
    let (steps, close) := (steps.push (.save (2 * n + 1) next), steps.size)
    let (steps, inner) := e.compile close steps
    (steps.push (.save (2 * n) inner), steps.size)
  | .repeated e least most, next, steps =>
    let (steps, tail) := match most with
      | none =>
        -- The step that repeats is put in before what it repeats is known.
        let loop := steps.size
        let (steps, first) := e.compile loop (steps.push .done)
        (steps.setIfInBounds loop (.fork first next), loop)
      | some most =>
        (List.range (most - least)).foldl
          (fun (steps, rest) _ =>
            let (steps, first) := e.compile rest steps
            (steps.push (.fork first next), steps.size))
          (steps, next)
    (List.range least).foldl (fun (steps, rest) _ => e.compile rest steps) (steps, tail)

/-- Whether an expression refers to what a group matched. -/
def Form.refers : Form → Bool
  | .again _ => true
  | .sequence a b | .either a b => a.refers || b.refers
  | .repeated e _ _ | .group _ e => e.refers
  | _ => false

/-- A compiled expression. -/
structure Automaton where
  steps : Array Step
  start : Nat
  /-- Whether threads at the same step differ by what their groups matched. -/
  refers : Bool
  /-- How many groups there are. -/
  groups : Nat
  /-- Whether letters are compared without regard to their size. -/
  folded : Bool

/-- The number of groups of an expression. -/
def Form.groups : Form → Nat
  | .sequence a b | .either a b => max a.groups b.groups
  | .repeated e _ _ => e.groups
  | .group n e => max n e.groups
  | _ => 0

/-- An expression that does not tell small from capital letters. -/
def Form.fold : Form → Form
  | .octet set => .octet set.folded
  | .sequence a b => .sequence a.fold b.fold
  | .either a b => .either a.fold b.fold
  | .repeated e least most => .repeated e.fold least most
  | .group n e => .group n e.fold
  | e => e

/-- The program of an expression. -/
def Automaton.ofForm (e : Form) (folded : Bool) : Automaton :=
  let e := if folded then e.fold else e
  let (steps, start) := e.compile 0 #[.done]
  { steps, start, refers := e.refers, groups := e.groups, folded }

end Assay.Expression
