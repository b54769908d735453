import Assay.Unicode.Display

/-!
# Quoted texts in messages

A message shows a text between double quotes and on one line: line breaks, tabs and NUL have short
escapes, the quote itself and the backslash are preceded by a backslash, and a character that cannot
be shown, or that would join the one before it, is given by its number.
-/

namespace Assay.Text

/-- The hexadecimal digits of a number, without leading zeros. -/
def hex (n : Nat) : String :=
  String.ofList (Nat.toDigits 16 n)

/-- A character by its number. -/
def numbered (c : Char) : String :=
  "\\u\x7b" ++ hex c.toNat ++ "\x7d"

/-- A character as it stands between quotation marks `quote`. -/
def quotedChar (quote c : Char) : String :=
  if c = '\x00' then "\\0"
  else if c = '\t' then "\\t"
  else if c = '\r' then "\\r"
  else if c = '\n' then "\\n"
  else if c = '\\' then "\\\\"
  else if c = quote then String.ofList ['\\', c]
  else if ' ' ≤ c && c ≤ '~' then String.singleton c
  else if Unicode.isExtending c || !Unicode.isPrintable c then numbered c
  else String.singleton c

/-- A text between double quotes. -/
def quoted (s : String) : String :=
  "\"" ++ s.foldl (fun out c => out ++ quotedChar '"' c) "" ++ "\""

/-- A character between single quotes. -/
def quotedSingle (c : Char) : String :=
  "'" ++ quotedChar '\'' c ++ "'"

end Assay.Text
