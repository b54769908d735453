import Assay.Regex.CharSet
import Assay.Regex.Pattern

/-!
# What a written expression means

The flags at each point decide what the parts of an expression mean. A change of flags lasts up to
the end of the group around it, also through the alternatives behind. Where case is ignored a set
holds all cases of its characters before it is negated. Where Unicode is off, classes and names mean
ASCII only, and a set that would hold a byte that is no character is refused.
-/

namespace Assay.Regex

open Unicode

/-- The flags in effect at a point of an expression. -/
structure Flags where
  ignoreCase : Bool := false
  multiLine : Bool := false
  dotAll : Bool := false
  swapGreed : Bool := false
  unicode : Bool := true
  crlf : Bool := false

namespace Flags

/-- The flags with one changed. Whether blanks are skipped means nothing any more. -/
def set (f : Flags) : Flag × Bool → Flags
  | (.ignoreCase, b) => { f with ignoreCase := b }
  | (.multiLine, b) => { f with multiLine := b }
  | (.dotAll, b) => { f with dotAll := b }
  | (.swapGreed, b) => { f with swapGreed := b }
  | (.unicode, b) => { f with unicode := b }
  | (.crlf, b) => { f with crlf := b }
  | (.verbose, _) => f

/-- The flags with several changed. -/
def setAll (f : Flags) (changes : List (Flag × Bool)) : Flags :=
  changes.foldl set f

/-- A set with all cases of its characters, where case is ignored. -/
def fold (f : Flags) (r : Ranges) : Ranges :=
  if f.ignoreCase then foldSet f.unicode r.normalize else r.normalize

/-- The characters outside of a set if it is negated; refused where that takes more than ASCII and
Unicode is off. -/
def negateIf (f : Flags) (negated : Bool) (r : Ranges) : Option Ranges :=
  if !negated then some r else if f.unicode then some (negate r) else none

end Flags

/-- The character that is written, unless it is a byte that is no character. -/
def Literal.char? (f : Flags) (l : Literal) : Option Char :=
  if !f.unicode && l.octet && l.char.toNat > 0x7F then none else some l.char

/-- The character that is written in a set; where Unicode is off only ASCII may stand there. -/
def Literal.item? (f : Flags) (l : Literal) : Option Char :=
  if !f.unicode && l.char.toNat > 0x7F then none else some l.char

/-- The set of a class with a letter of its own. -/
def Class.meaning? (f : Flags) (c : Class) (negated : Bool) : Option Ranges :=
  f.negateIf negated (c.set f.unicode)

/-- The set of the characters with a property. -/
def PropertyName.meaning? (f : Flags) (name : PropertyName) (negated : Bool) : Option Ranges := do
  if !f.unicode then none
  else f.negateIf negated (f.fold (← name.set?))

namespace SetSyntax

mutual

/-- The set that is written between brackets. -/
def meaning? (f : Flags) : SetSyntax → Option Ranges
  | .empty => some []
  | .literal l => (l.item? f).map fun c => [span c c]
  | .range a b => do return [span (← a.item? f) (← b.item? f)]
  | .posix name negated => do f.negateIf negated (f.fold (← posix? name))
  | .property name negated => name.meaning? f negated
  | .ofClass c negated => c.meaning? f negated
  | .bracketed negated set => do f.negateIf negated (f.fold (← set.meaning? f))
  | .union items => unionMeaning? f items
  | .op how left right => do
    let a := f.fold (← left.meaning? f)
    let b := f.fold (← right.meaning? f)
    return match how with
      | .inter => a.inter b
      | .diff => a.diff b
      | .symmetric => (a.diff b).union (b.diff a)

/-- The characters of some items together. -/
def unionMeaning? (f : Flags) : List SetSyntax → Option Ranges
  | [] => some []
  | i :: rest => do return (← i.meaning? f) ++ (← unionMeaning? f rest)

end

end SetSyntax

/-- The anchor that a mark stands for. -/
def Mark.anchor (f : Flags) : Mark → Anchor
  | .lineStart => if f.multiLine then .lineStart f.crlf else .textStart
  | .lineEnd => if f.multiLine then .lineEnd f.crlf else .textEnd
  | .textStart => .textStart
  | .textEnd => .textEnd
  | .wordBoundary => .wordBoundary f.unicode
  | .noWordBoundary => .noWordBoundary f.unicode
  | .wordStart => .wordStart f.unicode
  | .wordEnd => .wordEnd f.unicode
  | .wordStartHalf => .wordStartHalf f.unicode
  | .wordEndHalf => .wordEndHalf f.unicode

/-- The pattern of one character. -/
def charPattern (f : Flags) (c : Char) : Pattern :=
  if f.ignoreCase then .ofSet (foldChar f.unicode c) else .text [c]

/-- The pattern of the dot: any character, or any but a line break. -/
def dotPattern? (f : Flags) : Option Pattern :=
  if !f.unicode then none
  else if f.dotAll then some (.chars anyChar)
  else if f.crlf then some (.chars (negate [span '\n' '\n', span '\r' '\r']))
  else some (.chars (negate [span '\n' '\n']))

namespace Syntax

mutual

/-- The pattern that an expression means, and the flags behind it. -/
def meaning? (f : Flags) : Syntax → Option (Pattern × Flags)
  | .empty => some (.empty, f)
  | .flags changes => some (.empty, f.setAll changes)
  | .literal l => (l.char? f).map fun c => (charPattern f c, f)
  | .dot => (dotPattern? f).map (·, f)
  | .mark m => some (.anchor (m.anchor f), f)
  | .property name negated => (name.meaning? f negated).map fun r => (.ofSet r, f)
  | .ofClass c negated => (c.meaning? f negated).map fun r => (.ofSet r, f)
  | .bracketed negated set => do
    return (.ofSet (← f.negateIf negated (f.fold (← set.meaning? f))), f)
  | .rep s least most greedy => do
    let (p, f) ← s.meaning? f
    return (p.repeated least most (greedy != f.swapGreed), f)
  | .capture number s => do
    let (p, _) ← s.meaning? f
    return (.capture number p, f)
  | .group changes s => do
    let (p, _) ← s.meaning? (f.setAll changes)
    return (p, f)
  | .alt alternatives => do
    let (ps, f) ← meanings? f alternatives
    return (Pattern.ofAlternatives ps, f)
  | .seq parts => do
    let (ps, f) ← meanings? f parts
    return (.ofParts ps, f)

/-- The patterns that expressions mean, each with the flags behind the one before. -/
def meanings? (f : Flags) : List Syntax → Option (List Pattern × Flags)
  | [] => some ([], f)
  | s :: rest => do
    let (p, f) ← s.meaning? f
    let (ps, f) ← meanings? f rest
    return (p :: ps, f)

end

/-- The pattern that a whole expression means. -/
def pattern? (s : Syntax) : Option Pattern :=
  (s.meaning? {}).map Prod.fst

end Syntax

end Assay.Regex
