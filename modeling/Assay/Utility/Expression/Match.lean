import Assay.Utility.Expression.Basic

/-!
# Finding matches

A thread is a step with what its groups have matched. All threads are followed from a place up to
the end of the octets or until none is left; the last place at which one was done is the end of the
longest match.
-/

namespace Assay.Expression

/-- The octets in which is looked, and what counts as a line. -/
structure Subject where
  octets : ByteArray
  /-- Whether lines begin and end at line breaks within the octets. -/
  lines : Bool := false
  /-- Whether the beginning is no beginning of a line. -/
  inside : Bool := false

/-- Whether an octet belongs to a word. -/
def isWordByte (b : UInt8) : Bool :=
  b = 95 || (48 ≤ b && b ≤ 57) || (65 ≤ b && b ≤ 90) || (97 ≤ b && b ≤ 122)

/-- The octet at a place. -/
def Subject.byte? (s : Subject) (i : Nat) : Option UInt8 :=
  if h : i < s.octets.size then some s.octets[i] else none

/-- Whether something holds at a place. -/
def Subject.holds (s : Subject) (a : Anchor) (i : Nat) : Bool :=
  let before := i > 0 && (s.byte? (i - 1)).any isWordByte
  let behind := (s.byte? i).any isWordByte
  match a with
  | .textStart => i = 0
  | .textEnd => i = s.octets.size
  | .lineStart => (i = 0 && !s.inside) || (s.lines && i > 0 && s.byte? (i - 1) = some 10)
  | .lineEnd => i = s.octets.size || (s.lines && s.byte? i = some 10)
  | .wordStart => !before && behind
  | .wordEnd => before && !behind
  | .wordBoundary => before != behind
  | .noBoundary => before == behind
  | .noWordBefore => !before
  | .noWordBehind => !behind

/-- What groups matched: where they begin and end, by their numbers. -/
abbrev Slots := Array (Option Nat)

/-- A thread: the step at which it stands, how many octets of a group it has matched again, and what
its groups matched. -/
structure Thread where
  step : Nat
  taken : Nat := 0
  slots : Slots

/-- Which threads have been followed at a place: the steps of all, and the threads themselves if it
matters what their groups matched. -/
structure Seen where
  steps : Array Bool
  threads : List Thread := []

/-- Whether a thread need not be followed because of another one. -/
def Seen.covers (seen : Seen) (p : Automaton) (t : Thread) : Bool :=
  (seen.steps[t.step]?).getD true &&
    (!p.refers || seen.threads.any fun o =>
      o.step = t.step && o.taken = t.taken && o.slots = t.slots)

/-- Remembers a thread. -/
def Seen.insert (seen : Seen) (p : Automaton) (t : Thread) : Seen :=
  { steps := seen.steps.setIfInBounds t.step true
    threads := if p.refers then t :: seen.threads else [] }

/-- The bounds of what a group matched. -/
def groupBounds (slots : Slots) (n : Nat) : Option (Nat × Nat) :=
  match (slots[2 * n]?).join, (slots[2 * n + 1]?).join with
  | some a, some b => if a ≤ b then some (a, b) else none
  | _, _ => none

/-- Follows a thread at a place up to the steps that take octets: the threads there, the last one
first, in front of those that were found before. -/
def follow (p : Automaton) (s : Subject) (i : Nat) :
    (fuel : Nat) → Thread → List Thread × Seen → List Thread × Seen
  | 0, _, acc => acc
  | fuel + 1, t, (found, seen) =>
    if seen.covers p t then (found, seen)
    else
      let seen := seen.insert p t
      match p.steps[t.step]? with
      | some (.fork a b) =>
        let acc := follow p s i fuel { t with step := a } (found, seen)
        follow p s i fuel { t with step := b } acc
      | some (.save slot next) =>
        follow p s i fuel { t with step := next, slots := t.slots.setIfInBounds slot (some i) }
          (found, seen)
      | some (.check a next) =>
        if s.holds a i then follow p s i fuel { t with step := next } (found, seen)
        else (found, seen)
      | some (.again n next) =>
        match groupBounds t.slots n with
        | none => (found, seen)
        | some (a, b) =>
          if t.taken = b - a then
            follow p s i fuel { t with step := next, taken := 0 } (found, seen)
          else (t :: found, seen)
      | _ => (t :: found, seen)

/-- Whether two octets are the same, or the same letter. -/
def sameByte (p : Automaton) (a b : UInt8) : Bool :=
  a = b || (p.folded && small a = small b)

/-- A thread after an octet, if it takes it. -/
def advance (p : Automaton) (s : Subject) (b : UInt8) (t : Thread) : Option Thread :=
  match p.steps[t.step]? with
  | some (.take set next) => if set.contains b then some { t with step := next } else none
  | some (.again n _) =>
    match groupBounds t.slots n with
    | some (a, _) =>
      if (s.byte? (a + t.taken)).any (sameByte p b) then some { t with taken := t.taken + 1 }
      else none
    | none => none
  | _ => none

/-- All threads that follow from some at a place, in the order of preference. -/
def followAll (p : Automaton) (s : Subject) (i : Nat) (ts : List Thread) : List Thread :=
  let fuel := 4 * p.steps.size + 4
  let seen : Seen := { steps := Array.replicate p.steps.size false }
  let (found, _) := ts.foldl (fun acc t => follow p s i fuel t acc) ([], seen)
  found.reverse

/-- Follows threads from a place on; the best thread that is done so far, and where. -/
def runThreads (p : Automaton) (s : Subject) :
    (left : Nat) → (i : Nat) → List Thread → (best : Option (Nat × Slots)) →
      Option (Nat × Slots)
  | left, i, ts, best =>
    let ts := followAll p s i ts
    let best := match ts.find? fun t => (p.steps[t.step]?) matches some .done with
      | some t => some (i, t.slots)
      | none => best
    match left, s.byte? i with
    | left + 1, some b =>
      match ts.filterMap (advance p s b) with
      | [] => best
      | ts => runThreads p s left (i + 1) ts best
    | _, _ => best

/-- A match: its bounds, and those of its groups from number one on. -/
structure Found where
  start : Nat
  stop : Nat
  groups : List (Option (Nat × Nat))

/-- The longest match that begins at a place. -/
def matchAt (p : Automaton) (s : Subject) (i : Nat) : Option Found :=
  let slots : Slots := Array.replicate (2 * p.groups + 2) none
  match runThreads p s (s.octets.size - i) i [{ step := p.start, slots }] none with
  | some (stop, slots) =>
    let groups := (List.range p.groups).map fun n => groupBounds slots (n + 1)
    some { start := i, stop, groups }
  | none => none

/-- The first match that begins at a place or behind it. -/
def findFrom (p : Automaton) (s : Subject) : (left : Nat) → (i : Nat) → Option Found
  | left, i =>
    match matchAt p s i, left with
    | some f, _ => some f
    | none, left + 1 => findFrom p s left (i + 1)
    | none, 0 => none

/-- The first match from a place on. -/
def Automaton.find (p : Automaton) (s : Subject) (start : Nat) : Option Found :=
  if start ≤ s.octets.size then findFrom p s (s.octets.size - start) start else none

/-- Whether there is a match. -/
def Automaton.occursIn (p : Automaton) (s : Subject) : Bool :=
  (p.find s 0).isSome

end Assay.Expression
