import Assay.Unicode.Folding
import Assay.Unicode.Ranges

/-!
# Regular expressions

A regular expression matches texts, and among the ways to match it has an order of preference: the
left alternative before the right one, and for a greedy repetition one more round before none.
Characters are matched by sets, and positions by anchors that look at the characters around them.

Patterns are built by functions that keep them simple: characters side by side are one text,
alternatives of single characters are a set, and parts that match nothing but the empty text are
left out of sequences. The space that a pattern takes is measured on this form.
-/

namespace Assay.Regex

open Unicode

deriving instance BEq for CodeInterval

/-- A condition on a position between two characters. -/
inductive Anchor where
  | textStart
  | textEnd
  | lineStart (crlf : Bool)
  | lineEnd (crlf : Bool)
  | wordBoundary (unicode : Bool)
  | noWordBoundary (unicode : Bool)
  | wordStart (unicode : Bool)
  | wordEnd (unicode : Bool)
  | wordStartHalf (unicode : Bool)
  | wordEndHalf (unicode : Bool)
deriving BEq

/-- A regular expression. -/
inductive Pattern where
  | empty
  | text (cs : List Char)
  /-- A character of a set of intervals, ascending and apart. -/
  | chars (set : Ranges)
  | anchor (a : Anchor)
  | seq (parts : List Pattern)
  | alt (alternatives : List Pattern)
  | rep (p : Pattern) (min : Nat) (max : Option Nat) (greedy : Bool)
  /-- A part whose place in the text is remembered, by its number. -/
  | capture (number : Nat) (p : Pattern)
deriving BEq

/-- How many octets a code point takes. -/
def octets (n : Nat) : Nat :=
  if n < 0x80 then 1 else if n < 0x800 then 2 else if n < 0x10000 then 3 else 4

namespace Pattern

/-! ## Lengths -/

mutual

/-- The least number of octets that a match takes; none if that is not known. -/
def minLength : Pattern → Option Nat
  | .empty | .anchor _ => some 0
  | .text cs => some ((cs.map Char.utf8Size).foldl (· + ·) 0)
  | .chars set => set.head?.map fun i => octets i.first
  | .seq parts => minLengthOfSeq parts
  | .alt [] => none
  | .alt (p :: rest) => minLengthOfAlt p.minLength rest
  | .rep p least _ _ => p.minLength.map (· * least)
  | .capture _ p => p.minLength

/-- The least length of parts one behind the other. -/
def minLengthOfSeq : List Pattern → Option Nat
  | [] => some 0
  | p :: rest => do return (← p.minLength) + (← minLengthOfSeq rest)

/-- The least length of alternatives, one of which is as long as given. -/
def minLengthOfAlt (least : Option Nat) : List Pattern → Option Nat
  | [] => least
  | p :: rest => do minLengthOfAlt (some (min (← least) (← p.minLength))) rest

end

mutual

/-- The greatest number of octets that a match takes; none if there is no bound. -/
def maxLength : Pattern → Option Nat
  | .empty | .anchor _ => some 0
  | .text cs => some ((cs.map Char.utf8Size).foldl (· + ·) 0)
  | .chars set => set.getLast?.map fun i => octets i.last
  | .seq parts => maxLengthOfSeq parts
  | .alt [] => none
  | .alt (p :: rest) => maxLengthOfAlt p.maxLength rest
  | .rep p _ most _ => do return (← p.maxLength) * (← most)
  | .capture _ p => p.maxLength

/-- The greatest length of parts one behind the other. -/
def maxLengthOfSeq : List Pattern → Option Nat
  | [] => some 0
  | p :: rest => do return (← p.maxLength) + (← maxLengthOfSeq rest)

/-- The greatest length of alternatives, one of which is as long as given. -/
def maxLengthOfAlt (most : Option Nat) : List Pattern → Option Nat
  | [] => most
  | p :: rest => do maxLengthOfAlt (some (max (← most) (← p.maxLength))) rest

end

/-- Whether every match is empty. -/
def isBlank (p : Pattern) : Bool :=
  p.maxLength = some 0

/-! ## Where a match begins and ends -/

mutual

/-- Whether every match begins with a given anchor. -/
def beginsWith (a : Anchor) : Pattern → Bool
  | .anchor b => a == b
  | .seq parts => seqBeginsWith a parts
  | .alt parts => !parts.isEmpty && allBeginWith a parts
  | .rep p least _ _ => least > 0 && p.beginsWith a
  | .capture _ p => p.beginsWith a
  | .empty | .text _ | .chars _ => false

/-- Whether every match of a sequence begins with an anchor: one of the parts up to the first that
takes a character. -/
def seqBeginsWith (a : Anchor) : List Pattern → Bool
  | [] => false
  | p :: rest => p.beginsWith a || (p.isBlank && seqBeginsWith a rest)

/-- Whether every match of every alternative begins with an anchor. -/
def allBeginWith (a : Anchor) : List Pattern → Bool
  | [] => true
  | p :: rest => p.beginsWith a && allBeginWith a rest

end

mutual

/-- Whether every match ends with a given anchor. -/
def endsWith (a : Anchor) : Pattern → Bool
  | .anchor b => a == b
  | .seq parts => seqEndsWith a parts
  | .alt parts => !parts.isEmpty && allEndWith a parts
  | .rep p least _ _ => least > 0 && p.endsWith a
  | .capture _ p => p.endsWith a
  | .empty | .text _ | .chars _ => false

/-- Whether every match of a sequence ends with an anchor: one of the parts from the last that takes
a character on. -/
def seqEndsWith (a : Anchor) : List Pattern → Bool
  | [] => false
  | p :: rest => seqEndsWith a rest || (rest.all isBlank && p.endsWith a)

/-- Whether every match of every alternative ends with an anchor. -/
def allEndWith (a : Anchor) : List Pattern → Bool
  | [] => true
  | p :: rest => p.endsWith a && allEndWith a rest

end

/-! ## Building patterns -/

/-- An interval without the surrogates inside of it. -/
def withoutSurrogates (i : CodeInterval) : Ranges :=
  if i.first < 0xD800 && 0xDFFF < i.last then [⟨i.first, 0xD7FF⟩, ⟨0xE000, i.last⟩] else [i]

/-- A character of a set. -/
def ofSet (set : Ranges) : Pattern :=
  match set.normalize.flatMap withoutSurrogates with
  | [i] => if i.first = i.last then .text [Char.ofNat i.first] else .chars [i]
  | set => .chars set

/-- The text in front of parts, if there is any. -/
def withText (cs : List Char) (parts : List Pattern) : List Pattern :=
  if cs.isEmpty then parts else .text cs :: parts

/-- Parts with neighbouring texts joined and empty parts left out; `cs` is the text in front. -/
def joinTexts (cs : List Char) : List Pattern → List Pattern
  | [] => withText cs []
  | .text ds :: rest => joinTexts (cs ++ ds) rest
  | .empty :: rest => joinTexts cs rest
  | p :: rest => withText cs (p :: joinTexts [] rest)

/-- The parts of a sequence, or the pattern itself. -/
def parts : Pattern → List Pattern
  | .seq ps => ps
  | p => [p]

/-- The alternatives of a choice, or the pattern itself. -/
def alternatives : Pattern → List Pattern
  | .alt ps => ps
  | p => [p]

/-- Patterns one after the other. -/
def ofParts (ps : List Pattern) : Pattern :=
  match joinTexts [] (ps.flatMap parts) with
  | [] => .empty
  | [p] => p
  | ps => .seq ps

/-- The only character of a text. -/
def single? : Pattern → Option CodeInterval
  | .text [c] => some ⟨c.toNat, c.toNat⟩
  | _ => none

/-- The set of a pattern for one character. -/
def set? : Pattern → Option Ranges
  | .chars set => some set
  | _ => none

/-- The longest sequence of parts that two sequences begin with. -/
def commonParts : List Pattern → List Pattern → List Pattern
  | p :: ps, q :: qs => if p == q then p :: commonParts ps qs else []
  | _, _ => []

/-- The parts that several sequences begin with; none if a pattern is no sequence. -/
def sharedParts : List Pattern → List Pattern
  | [] => []
  | .seq ps :: rest => rest.foldl (fun shared p => match p with
    | .seq qs => commonParts shared qs
    | _ => []) ps
  | _ => []

/-- Alternatives that share no parts at their beginning, in order of preference. -/
def choice (ps : List Pattern) : Pattern :=
  match ps.flatMap alternatives with
  | [] => .chars []
  | [p] => p
  | ps =>
    match ps.mapM single?, ps.mapM set? with
    | some singles, _ => ofSet singles
    | none, some sets => ofSet sets.flatten
    | none, none => .alt ps

mutual

/-- How many patterns a pattern is made of. -/
def size : Pattern → Nat
  | .empty | .text _ | .chars _ | .anchor _ => 1
  | .seq ps | .alt ps => sizeOfAll ps + 1
  | .rep p _ _ _ | .capture _ p => p.size + 1

/-- How many patterns several patterns are made of. -/
def sizeOfAll : List Pattern → Nat
  | [] => 0
  | p :: rest => p.size + sizeOfAll rest

end

/-- Patterns to choose from, with what all of them begin with put in front so many times at most. -/
def factored : (fuel : Nat) → List Pattern → Pattern
  | 0, ps => choice ps
  | fuel + 1, ps =>
    match choice ps with
    | .alt ps =>
      match sharedParts ps with
      | [] => .alt ps
      | shared =>
        let rest := ps.map fun p => ofParts (p.parts.drop shared.length)
        ofParts (shared ++ [factored fuel rest])
    | p => p

/-- Patterns to choose from, in order of preference. What all of them begin with is put in front. -/
def ofAlternatives (ps : List Pattern) : Pattern :=
  factored (sizeOfAll ps) ps

/-- A pattern several times. Of one that matches nothing but the empty text one round is enough. -/
def repeated (p : Pattern) (least : Nat) (most : Option Nat) (greedy : Bool) : Pattern :=
  let (least, most) :=
    if p.isBlank then (min least 1, some (min (most.getD 1) 1)) else (least, most)
  if least = 0 && most = some 0 then .empty
  else if least = 1 && most = some 1 then p
  else .rep p least most greedy

end Pattern

end Assay.Regex
