import Assay.Regex.Syntax
import Assay.Unicode.Age
import Assay.Unicode.Category
import Assay.Unicode.Folding
import Assay.Unicode.Property
import Assay.Unicode.Script
import Assay.Unicode.ScriptExtension
import Assay.Unicode.Segmentation

/-!
# Sets of characters by name

The sets that a pattern can name: digits, blanks and word characters, the bracketed names for ASCII,
and the properties of Unicode with their values. Names of properties are compared without regard to
case, blanks, underscores, hyphens and a leading `is`, and without what is not ASCII in them.
-/

namespace Assay.Regex

open Unicode

/-- An interval of characters. -/
def span (a b : Char) : CodeInterval :=
  ⟨a.toNat, b.toNat⟩

/-- All characters: every code point that is no surrogate. -/
def anyChar : Ranges :=
  [⟨0, 0xD7FF⟩, ⟨0xE000, 0x10FFFF⟩]

/-- The characters outside a set. -/
def negate (r : Ranges) : Ranges :=
  r.complement.inter anyChar

/-- The ASCII digits. -/
def asciiDigits : Ranges := [span '0' '9']

/-- The ASCII blanks. -/
def asciiBlanks : Ranges := [span '\t' '\r', span ' ' ' ']

/-- The ASCII letters, digits and the underscore. -/
def asciiWord : Ranges := [span '0' '9', span 'A' 'Z', span '_' '_', span 'a' 'z']

/-- A name without what does not matter inside of it. -/
def plainName (s : List Char) : List Char :=
  s.filterMap fun c =>
    if c = ' ' || c = '_' || c = '-' || c.toNat > 0x7F then none else some c.toLower

/-- A name as it is compared. The prefix must be the first thing in it; `isc` is a name of its own.
-/
def normalizeName (s : List Char) : List Char :=
  match s with
  | i :: 's' :: rest | i :: 'S' :: rest =>
    if i = 'i' || i = 'I' then
      if plainName rest = ['c'] then ['i', 's', 'c'] else plainName rest
    else plainName s
  | _ => plainName s

/-- The set of a table that has the name. -/
def lookup (table : List NamedSet) (name : List Char) : Option NamedSet :=
  table.find? fun s => s.names.any fun n => plainName n.toList = name

/-- The code points of the set of a table that has the name. -/
def lookupSet (table : List NamedSet) (name : List Char) : Option Ranges :=
  (lookup table name).map NamedSet.ranges

/-- The general categories that a name stands for together. -/
def categoryGroup? (name : String) : Option (List String) :=
  match name with
  | "l" | "letter" => some ["Lu", "Ll", "Lt", "Lm", "Lo"]
  | "lc" | "casedletter" => some ["Lu", "Ll", "Lt"]
  | "m" | "mark" | "combiningmark" => some ["Mn", "Mc", "Me"]
  | "n" | "number" => some ["Nd", "Nl", "No"]
  | "p" | "punct" | "punctuation" => some ["Pc", "Pd", "Ps", "Pe", "Pi", "Pf", "Po"]
  | "s" | "symbol" => some ["Sm", "Sc", "Sk", "So"]
  | "z" | "separator" => some ["Zs", "Zl", "Zp"]
  | "c" | "other" => some ["Cc", "Cf", "Co", "Cn"]
  | _ => none

/-- The set of a general category or of a group of them. There is none of the surrogates, which are
no characters. -/
def category? (name : List Char) : Option Ranges :=
  match String.ofList name with
  | "any" => some anyChar
  | "assigned" => (lookupSet categories "cn".toList).map negate
  | "ascii" => some [⟨0, 0x7F⟩]
  | s =>
    match categoryGroup? s with
    | some group =>
      some ((categories.filter fun c => c.names.any group.contains).flatMap NamedSet.ranges)
    | none => lookupSet categories name

/-- The set of a script. -/
def script? (name : List Char) : Option Ranges :=
  lookupSet scripts name

/-- The set of the characters used with a script: those of the script alone, and those that it
shares. -/
def usedWith? (name : List Char) : Option Ranges :=
  (lookup scripts name).map fun script =>
    let shared := scriptExtensions.filter fun s => s.names.any script.names.contains
    (script.ranges.diff (scriptExtensions.flatMap NamedSet.ranges)).union
      (shared.flatMap NamedSet.ranges)

/-- The set of the characters that a version of Unicode has. -/
def age? (name : List Char) : Option Ranges :=
  let later := ages.dropWhile fun s => s.names.all fun n => plainName n.toList ≠ name
  if later.isEmpty then none
  else some ((ages.take (ages.length - later.length + 1)).flatMap NamedSet.ranges)

/-- The set of a binary property. Three names that are also abbreviations of other properties are
not taken for one. -/
def property? (name : List Char) : Option Ranges :=
  if ["cf", "sc", "lc"].contains (String.ofList name) then none else lookupSet properties name

/-- The set that a single name stands for. -/
def named? (name : List Char) : Option Ranges :=
  let name := normalizeName name
  property? name <|> category? name <|> script? name

/-- The set of the characters that have a value for a property. -/
def valued? (property value : List Char) : Option Ranges :=
  let value := normalizeName value
  match String.ofList (normalizeName property) with
  | "gc" | "generalcategory" => category? value
  | "sc" | "script" => script? value
  | "scx" | "scriptextensions" => usedWith? value
  | "age" => age? value
  | "gcb" | "graphemeclusterbreak" => lookupSet graphemeBreaks value
  | "sb" | "sentencebreak" => lookupSet sentenceBreaks value
  | "wb" | "wordbreak" => lookupSet wordBreaks value
  | _ => none

/-- The set that the name of a property stands for. -/
def PropertyName.set? : PropertyName → Option Ranges
  | .single name => named? name
  | .valued property value => valued? property value

/-- The Unicode blanks. -/
def blanks : Ranges :=
  (lookupSet properties "whitespace".toList).getD []

/-- The Unicode digits. -/
def digits : Ranges :=
  (lookupSet categories "nd".toList).getD []

/-- The word characters: letters, marks, digits, connecting punctuation and joining controls. -/
def word : Ranges :=
  ["alphabetic", "joincontrol"].flatMap (fun n => (lookupSet properties n.toList).getD []) ++
    ["mn", "mc", "me", "nd", "pc"].flatMap fun n => (lookupSet categories n.toList).getD []

/-- The set of a class with a letter of its own. -/
def Class.set (unicode : Bool) : Class → Ranges
  | .digit => if unicode then Ranges.normalize digits else asciiDigits
  | .blank => if unicode then Ranges.normalize blanks else asciiBlanks
  | .word => if unicode then Ranges.normalize Regex.word else asciiWord

/-- The set of a bracketed name. -/
def posix? (name : String) : Option Ranges :=
  match name with
  | "alnum" => some [span '0' '9', span 'A' 'Z', span 'a' 'z']
  | "alpha" => some [span 'A' 'Z', span 'a' 'z']
  | "ascii" => some [⟨0, 0x7F⟩]
  | "blank" => some [span '\t' '\t', span ' ' ' ']
  | "cntrl" => some [⟨0, 0x1F⟩, ⟨0x7F, 0x7F⟩]
  | "digit" => some asciiDigits
  | "graph" => some [span '!' '~']
  | "lower" => some [span 'a' 'z']
  | "print" => some [span ' ' '~']
  | "punct" => some [span '!' '/', span ':' '@', ⟨0x5B, 0x60⟩, ⟨0x7B, 0x7E⟩]
  | "space" => some asciiBlanks
  | "upper" => some [span 'A' 'Z']
  | "word" => some asciiWord
  | "xdigit" => some [span '0' '9', span 'A' 'F', span 'a' 'f']
  | _ => none

/-- The moves of simple case folding, one by one. -/
def foldPairs : List (Nat × Nat) :=
  foldRuns.flatMap fun r =>
    (List.range r.count).map fun i =>
      let n := r.first + i * r.step
      (n, ((n : Int) + r.shift).toNat)

/-- The set with all cases of its characters. -/
def foldSet (unicode : Bool) (r : Ranges) : Ranges :=
  if unicode then
    let targets := (foldPairs.filter fun (a, b) => r.has a || r.has b).map Prod.snd
    let more := foldPairs.flatMap fun (a, b) =>
      if targets.contains b then [⟨a, a⟩, ⟨b, b⟩] else []
    Ranges.normalize (r ++ more)
  else
    let upper := (r.inter [span 'A' 'Z']).map fun i => ⟨i.first + 32, i.last + 32⟩
    let lower := (r.inter [span 'a' 'z']).map fun i => ⟨i.first - 32, i.last - 32⟩
    Ranges.normalize (r ++ upper ++ lower)

/-- All cases of one character. -/
def foldChar (unicode : Bool) (c : Char) : Ranges :=
  if unicode then Ranges.normalize ((caseVariants c.toNat).map fun n => ⟨n, n⟩)
  else foldSet false [span c c]

end Assay.Regex
