/-!
# How a regular expression is written

The tree of a regular expression as its text has it, before flags and names mean anything. The depth
of a tree counts every part that holds others; a text that nests too deep is refused.
-/

namespace Assay.Regex

/-- The flags of a regular expression. -/
inductive Flag where
  | ignoreCase
  | multiLine
  | dotAll
  | swapGreed
  | unicode
  | crlf
  | verbose
deriving DecidableEq

/-- A character as it is written; `octet` marks those given by two hexadecimal digits. -/
structure Literal where
  char : Char
  octet : Bool := false

/-- The classes of characters with a letter of their own. -/
inductive Class where
  | digit
  | blank
  | word
deriving DecidableEq

/-- The name of a set of characters: of one property, or of a value of a property. -/
inductive PropertyName where
  | single (name : List Char)
  | valued (property value : List Char)

/-- The operations on sets. -/
inductive SetOp where
  | inter
  | diff
  | symmetric

/-- A set of characters as it is written between brackets. -/
inductive SetSyntax where
  | empty
  | literal (l : Literal)
  | range (first last : Literal)
  /-- A bracketed name of a set of ASCII characters. -/
  | posix (name : String) (negated : Bool)
  | property (name : PropertyName) (negated : Bool)
  | ofClass (c : Class) (negated : Bool)
  | bracketed (negated : Bool) (set : SetSyntax)
  | union (items : List SetSyntax)
  | op (op : SetOp) (left right : SetSyntax)

namespace SetSyntax

/-- Items one behind the other. -/
def ofItems : List SetSyntax → SetSyntax
  | [] => .empty
  | [i] => i
  | items => .union items

mutual

/-- How many parts that hold others lie around the innermost one. -/
def depth : SetSyntax → Nat
  | .empty | .literal _ | .range .. | .posix .. | .property .. | .ofClass .. => 0
  | .bracketed _ set => set.depth + 1
  | .union items => greatestDepth items + 1
  | .op _ left right => max left.depth right.depth + 1

/-- The greatest depth of some items. -/
def greatestDepth : List SetSyntax → Nat
  | [] => 0
  | i :: rest => max i.depth (greatestDepth rest)

end

end SetSyntax

/-- A condition on a position, by how it is written. -/
inductive Mark where
  | lineStart
  | lineEnd
  | textStart
  | textEnd
  | wordBoundary
  | noWordBoundary
  | wordStart
  | wordEnd
  | wordStartHalf
  | wordEndHalf

/-- A regular expression as it is written. -/
inductive Syntax where
  | empty
  /-- A change of flags up to the end of the group around it. -/
  | flags (changes : List (Flag × Bool))
  | literal (l : Literal)
  | dot
  | mark (m : Mark)
  | property (name : PropertyName) (negated : Bool)
  | ofClass (c : Class) (negated : Bool)
  | bracketed (negated : Bool) (set : SetSyntax)
  | rep (s : Syntax) (least : Nat) (most : Option Nat) (greedy : Bool)
  /-- A group that is remembered, by its number. -/
  | capture (number : Nat) (s : Syntax)
  | group (changes : List (Flag × Bool)) (s : Syntax)
  | alt (alternatives : List Syntax)
  | seq (parts : List Syntax)

namespace Syntax

/-- Parts one behind the other. -/
def seqs : List Syntax → Syntax
  | [] => .empty
  | [s] => s
  | parts => .seq parts

/-- Alternatives in order. -/
def alts : List Syntax → Syntax
  | [] => .empty
  | [s] => s
  | alternatives => .alt alternatives

/-- Whether a repetition may follow. -/
def isRepeatable : Syntax → Bool
  | .empty | .flags _ => false
  | _ => true

mutual

/-- How many parts that hold others lie around the innermost one. -/
def depth : Syntax → Nat
  | .empty | .flags _ | .literal _ | .dot | .mark _ | .property .. | .ofClass .. => 0
  | .bracketed _ set => set.depth + 1
  | .rep s _ _ _ | .capture _ s | .group _ s => s.depth + 1
  | .alt parts | .seq parts => greatestDepth parts + 1

/-- The greatest depth of some parts. -/
def greatestDepth : List Syntax → Nat
  | [] => 0
  | s :: rest => max s.depth (greatestDepth rest)

end

end Syntax

/-- How deep an expression may be nested. -/
def nestLimit : Nat := 250

end Assay.Regex
