import Assay.Json.Basic

/-!
# Writing JSON

A value is written on one line without blanks, or spread over lines: every item and member on a line
of its own, two blanks deeper than the line that opens it, and a blank behind each colon. Empty
arrays and objects stay on one line. Strings escape the quote, the backslash and control characters
only.
-/

namespace Assay.Json

/-- A hexadecimal digit. -/
def hexChar (n : Nat) : Char :=
  if n < 10 then Char.ofNat (n + '0'.toNat) else Char.ofNat (n - 10 + 'a'.toNat)

/-- A character as it stands in a string. -/
def escape (c : Char) : String :=
  match c with
  | '"' => "\\\""
  | '\\' => "\\\\"
  | '\x08' => "\\b"
  | '\x0c' => "\\f"
  | '\n' => "\\n"
  | '\r' => "\\r"
  | '\t' => "\\t"
  | c =>
    if c < ' ' then
      "\\u00" ++ String.ofList [hexChar (c.toNat / 16), hexChar (c.toNat % 16)]
    else String.singleton c

/-- A string between quotes. -/
def renderString (s : String) : String :=
  "\"" ++ s.foldl (fun out c => out ++ escape c) "" ++ "\""

/-- A value other than an array or an object, as text. -/
def renderScalar : Json → String
  | .null => "null"
  | .bool true => "true"
  | .bool false => "false"
  | .int n => toString n
  | .float x => x.renderScaled
  | .str s => renderString s
  | .arr _ => "[]"
  | .obj _ => "\x7b\x7d"

mutual

/-- A value on one line. -/
def render : Json → String
  | .arr items => "[" ++ renderItems items ++ "]"
  | .obj members => "\x7b" ++ renderMembers members ++ "\x7d"
  | v => renderScalar v

/-- The items of an array with commas between them. -/
def renderItems : List Json → String
  | [] => ""
  | [v] => render v
  | v :: rest => render v ++ "," ++ renderItems rest

/-- The members of an object with commas between them. -/
def renderMembers : List (String × Json) → String
  | [] => ""
  | [(k, v)] => renderString k ++ ":" ++ render v
  | (k, v) :: rest => renderString k ++ ":" ++ render v ++ "," ++ renderMembers rest

end

/-- A line break and the blanks in front of a line at a depth. -/
def newline (depth : Nat) : String :=
  "\n" ++ String.ofList (List.replicate (2 * depth) ' ')

mutual

/-- A value spread over lines, opened at a depth. -/
def prettyAt (depth : Nat) : Json → String
  | .arr (v :: rest) =>
    "[" ++ newline (depth + 1) ++ prettyAt (depth + 1) v ++ prettyItems depth rest
      ++ newline depth ++ "]"
  | .obj ((k, v) :: rest) =>
    "\x7b" ++ newline (depth + 1) ++ renderString k ++ ": " ++ prettyAt (depth + 1) v
      ++ prettyMembers depth rest ++ newline depth ++ "\x7d"
  | v => renderScalar v

/-- The items behind the first, each on a line of its own. -/
def prettyItems (depth : Nat) : List Json → String
  | [] => ""
  | v :: rest => "," ++ newline (depth + 1) ++ prettyAt (depth + 1) v ++ prettyItems depth rest

/-- The members behind the first, each on a line of its own. -/
def prettyMembers (depth : Nat) : List (String × Json) → String
  | [] => ""
  | (k, v) :: rest =>
    "," ++ newline (depth + 1) ++ renderString k ++ ": " ++ prettyAt (depth + 1) v
      ++ prettyMembers depth rest

end

/-- A value spread over lines. -/
def pretty (v : Json) : String :=
  prettyAt 0 v

end Assay.Json
