import Assay.Text.Bytes

/-!
# Patterns

A pattern matches whole texts: an asterisk any text, a question mark any octet, and brackets one of
some octets, which may be named one by one, by ranges or by classes. What was quoted stands for
itself. Texts are matched octet by octet, so patterns are made of the octets of their characters.
-/

namespace Assay.Shell

/-- A character of a word, and whether it was quoted. -/
structure Glyph where
  char : Char
  quoted : Bool
deriving DecidableEq

/-- The octets of a character, each as the character of its number. -/
def charOctets (c : Char) : List Char :=
  if c.toNat < 0x80 then [c]
  else (Text.encode (String.singleton c)).toList.map fun b => Char.ofNat b.toNat

/-- The octets of a text. -/
def toOctets (s : List Char) : List Char :=
  s.flatMap charOctets

/-- The text of octets. -/
def ofOctets (s : List Char) : String :=
  if s.all (·.toNat < 0x80) then String.ofList s
  else Text.decodeLossy ⟨(s.map fun c => UInt8.ofNat c.toNat).toArray⟩

/-- What stands between brackets. -/
inductive SetItem where
  | range (first last : Char)
  | ofClass (holds : Char → Bool)

/-- Whether an item has an octet. -/
def SetItem.has (c : Char) : SetItem → Bool
  | .range a b => a ≤ c && c ≤ b
  | .ofClass holds => holds c

/-- Whether an octet is printed as a mark. -/
def isMark (c : Char) : Bool :=
  '!' ≤ c && c ≤ '~' && !c.isAlphanum

/-- The octets of a class, by its name. -/
def classOf? (name : String) : Option (Char → Bool) :=
  match name with
  | "alpha" => some Char.isAlpha
  | "digit" => some Char.isDigit
  | "alnum" => some Char.isAlphanum
  | "upper" => some Char.isUpper
  | "lower" => some Char.isLower
  | "space" => some fun c => c = ' ' || ('\t' ≤ c && c ≤ '\r')
  | "blank" => some fun c => c = ' ' || c = '\t'
  | "punct" => some isMark
  | "graph" => some fun c => '!' ≤ c && c ≤ '~'
  | "print" => some fun c => ' ' ≤ c && c ≤ '~'
  | "cntrl" => some fun c => c < ' ' || c = '\x7f'
  | "xdigit" => some fun c => c.isDigit || ('a' ≤ c && c ≤ 'f') || ('A' ≤ c && c ≤ 'F')
  | _ => none

/-- A part of a pattern. -/
inductive PatternPart where
  | one (c : Char)
  | any
  | many
  | set (negated : Bool) (items : List SetItem)

/-- The class that is named behind a bracket and a colon, and the glyphs behind it. -/
def namedClass (gs : List Glyph) : Option (SetItem × List Glyph) :=
  let name := gs.takeWhile fun g => g.char.isAlpha
  match gs.drop name.length with
  | ⟨':', _⟩ :: ⟨']', _⟩ :: rest =>
    (classOf? (String.ofList (name.map Glyph.char))).map fun holds => (.ofClass holds, rest)
  | _ => none

/-- The items in front of a closing bracket, which is not the first of them, and what is behind it;
of at most so many glyphs. -/
def setItems : (fuel : Nat) → (first : Bool) → List Glyph → Option (List SetItem × List Glyph)
  | 0, _, _ => none
  | _ + 1, _, [] => none
  | fuel + 1, first, g :: rest =>
    let goOn (item : SetItem) (rest : List Glyph) : Option (List SetItem × List Glyph) :=
      (setItems fuel false rest).map fun (items, behind) => (item :: items, behind)
    let single : Option (List SetItem × List Glyph) :=
      match rest with
      | ⟨'-', false⟩ :: b :: more =>
        if b.char = ']' && !b.quoted then goOn (.range g.char g.char) rest
        else goOn (.range g.char b.char) more
      | _ => goOn (.range g.char g.char) rest
    if g.char = ']' && !g.quoted && !first then some ([], rest)
    else if g.char = '[' && !g.quoted then
      match rest with
      | ⟨':', false⟩ :: more =>
        match namedClass more with
        | some (item, behind) => goOn item behind
        | none => single
      | _ => single
    else single

/-- The parts of a pattern, with fuel for each glyph. -/
def patternParts : (fuel : Nat) → List Glyph → List PatternPart
  | 0, _ => []
  | _ + 1, [] => []
  | fuel + 1, g :: rest =>
    if g.quoted then .one g.char :: patternParts fuel rest
    else if g.char = '*' then .many :: patternParts fuel rest
    else if g.char = '?' then .any :: patternParts fuel rest
    else if g.char = '[' then
      let (negated, inner) := match rest with
        | ⟨'!', false⟩ :: r => (true, r)
        | r => (false, r)
      match setItems (inner.length + 1) true inner with
      | some (items, behind) => .set negated items :: patternParts fuel behind
      | none => .one '[' :: patternParts fuel rest
    else if g.char = '\\' then
      match rest with
      | h :: rest' => .one h.char :: patternParts fuel rest'
      | [] => [.one '\\']
    else .one g.char :: patternParts fuel rest

/-- The pattern that glyphs write. -/
def pattern (gs : List Glyph) : List PatternPart :=
  let gs := gs.flatMap fun g => (charOctets g.char).map fun c => ⟨c, g.quoted⟩
  patternParts (gs.length + 1) gs

/-- Whether a pattern matches octets. -/
def matchesParts : List PatternPart → List Char → Bool
  | [], s => s.isEmpty
  | .many :: ps, [] => matchesParts ps []
  | .many :: ps, c :: s => matchesParts ps (c :: s) || matchesParts (.many :: ps) s
  | .one c :: ps, d :: s => c = d && matchesParts ps s
  | .any :: ps, _ :: s => matchesParts ps s
  | .set negated items :: ps, d :: s =>
    (items.any (SetItem.has d)) != negated && matchesParts ps s
  | _ :: _, [] => false
termination_by ps s => ps.length + s.length

/-- Whether a pattern matches a text. -/
def matchesText (ps : List PatternPart) (s : String) : Bool :=
  matchesParts ps (toOctets s.toList)

/-- Whether a character makes a word a pattern. -/
def isActive (gs : List Glyph) : Bool :=
  gs.any fun g => !g.quoted && (g.char = '*' || g.char = '?' || g.char = '[')

/-- The text of characters. -/
def textOf (gs : List Glyph) : String :=
  String.ofList (gs.map Glyph.char)

/-- The characters of a text. -/
def glyphs (quoted : Bool) (s : List Char) : List Glyph :=
  s.map fun c => ⟨c, quoted⟩

end Assay.Shell
