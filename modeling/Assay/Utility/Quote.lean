import Assay.Shell.Print

/-!
# Names in messages

Utilities show names so that they can be pasted into a script: between quotes if the name has a
character with a meaning of its own, and with bytes that are not printable by their escapes.
-/

namespace Assay.Shell

/-- Whether a byte is printed as it is. -/
def isPrintable (b : UInt8) : Bool :=
  32 ≤ b && b ≤ 126

/-- The escape of a byte that is not printed as it is. -/
def byteEscape (b : UInt8) : String :=
  match b.toNat with
  | 7 => "\\a"
  | 8 => "\\b"
  | 9 => "\\t"
  | 10 => "\\n"
  | 11 => "\\v"
  | 12 => "\\f"
  | 13 => "\\r"
  | n =>
    "\\" ++ String.ofList [Nat.digitChar (n / 64), Nat.digitChar (n / 8 % 8), Nat.digitChar (n % 8)]

/-- Whether a character has a meaning of its own in a script; some have it at the front only. -/
def isSpecial (first : Bool) (c : Char) : Bool :=
  " !\"$&'()*;<=>?[\\]^\x60|".toList.contains c || (first && (c == '#' || c == '~'))

/-- Whether a name has to be quoted. -/
def needsQuotes (name : String) : Bool :=
  match name.toList with
  | [] => true
  | c :: cs => isSpecial true c || cs.any (isSpecial false) || !(textBytes name).all isPrintable

/-- Bytes between single quotes, of which the first is written already; `escaped` says whether the
quotes are those of escapes. -/
def quotedBytes (escaped : Bool) : List UInt8 → String
  | [] => "'"
  | b :: rest =>
    if isPrintable b then
      let c := Char.ofNat b.toNat
      (if escaped then "''" else "") ++ (if c = '\'' then "'\\''" else String.singleton c) ++
        quotedBytes false rest
    else (if escaped then "" else "'$'") ++ byteEscape b ++ quotedBytes true rest

/-- A name between quotes. -/
def quotedName (name : String) : String :=
  let plain (c : Char) : Bool :=
    isPrintable c.toUInt8 && c.toNat < 128 && !"\"$\\\x60".toList.contains c
  if name.toList.contains '\'' && name.toList.all plain then "\"" ++ name ++ "\""
  else "'" ++ quotedBytes false (textBytes name)

/-- A name, between quotes if it needs them. -/
def shownName (name : String) : String :=
  if needsQuotes name then quotedName name else name

end Assay.Shell
