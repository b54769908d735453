import Assay.Number.Notation
import Assay.Shell.Print
import Assay.Utility.Awk.Syntax

/-!
# The tokens of programs

A program is cut into names, numbers, texts, expressions to look for, and signs. A slash begins an
expression where an operand may stand, and divides otherwise.
-/

namespace Assay.Awk

open Shell

/-- A token. -/
inductive Token where
  | number (x : Float)
  | text (bs : List UInt8)
  | regex (bs : List UInt8)
  | name (s : String)
  /-- A name right in front of a parenthesis. -/
  | called (s : String)
  | word (s : String)
  | sign (s : String)
  | newline
  | finish
deriving Inhabited

/-- A token as faults name it. -/
def Token.shown : Token → String
  | .name s | .called s | .word s | .sign s => s
  | .newline | .finish => "end of line"
  | .number x => toString x.toInt64
  | .text _ => "string"
  | .regex _ => "/"

/-- The words of the language. -/
def words : List String :=
  ["BEGIN", "END", "function", "func", "if", "else", "while", "for", "do", "break", "continue",
    "next", "nextfile", "exit", "return", "delete", "in", "getline", "print", "printf"]

/-- The signs, the longer ones first. -/
def signs : List String :=
  ["&&", "||", "++", "--", "+=", "-=", "*=", "/=", "%=", "^=", "==", "<=", ">=", "!=", "!~", ">>",
    "\x7b", "\x7d", "(", ")", "[", "]", ";", ",", "+", "-", "*", "/", "%", "^", "!", ">", "<", "|",
    "?", ":", "~", "$", "="]

/-- Why a text is no program: a fault in the line of a number. -/
structure Fault where
  line : Nat
  message : String
  /-- Whether the line is told by its number alone. -/
  bare : Bool := false

/-- A fault in words. -/
def Fault.words (f : Fault) : String :=
  "awk: " ++ (if f.bare then "" else "line ") ++ toString f.line ++ ": " ++ f.message

/-- The octets of a text up to the quote that ends it, and what is behind it; none if it does not
end. The fuel is the length of the text. -/
def quoted : (fuel : Nat) → List Char → Option (List UInt8 × List Char)
  | 0, _ | _, [] | _, '\n' :: _ => none
  | _, '"' :: rest => some ([], rest)
  | fuel + 1, '\\' :: c :: rest =>
    let put (bs : List UInt8) (rest : List Char) : Option (List UInt8 × List Char) :=
      (quoted fuel rest).map fun (more, behind) => (bs ++ more, behind)
    if c = '\n' then put [] rest
    else if isOctal c then
      let (b, rest) := octalByte 3 (c :: rest)
      put [b] rest
    else if c = '"' || c = '\\' then put (charBytes c) rest
    else if c = 'x' then
      let value (c : Char) : Option Nat :=
        let n := c.toLower.toNat
        if 48 ≤ n && n ≤ 57 then some (n - 48)
        else if 97 ≤ n && n ≤ 102 then some (n - 87) else none
      let ds := ((rest.take 2).map value).takeWhile Option.isSome |>.reduceOption
      if ds.isEmpty then put [92, 120] rest
      else put [UInt8.ofNat (ds.foldl (fun n d => 16 * n + d) 0)] (rest.drop ds.length)
    else match letterEscape? c with
      | some b => put [b] rest
      | none => put (92 :: charBytes c) rest
  | fuel + 1, c :: rest =>
    (quoted fuel rest).map fun (more, behind) => (charBytes c ++ more, behind)

/-- The octets of an expression up to the slash that ends it, and what is behind it; `inside` says
whether a bracket is open, and `first` whether a closing sign would be a member of it. -/
def slashed : (fuel : Nat) → (inside first : Bool) → List Char → Option (List UInt8 × List Char)
  | 0, _, _, _ | _, _, _, [] | _, _, _, '\n' :: _ => none
  | fuel + 1, inside, _, '\\' :: c :: rest =>
    (slashed fuel inside false rest).map fun (more, behind) =>
      (if c = '/' then 47 :: more else 92 :: charBytes c ++ more, behind)
  | fuel + 1, inside, first, c :: rest =>
    let put (inside first : Bool) : Option (List UInt8 × List Char) :=
      (slashed fuel inside first rest).map fun (more, behind) => (charBytes c ++ more, behind)
    if inside then
      if c = ']' && !first then put false false
      else put true (first && c = '^')
    else if c = '/' then some ([], rest)
    else if c = '[' then put true true
    else put false false

/-- The number in front, and what is behind it. -/
def numeral? (s : List Char) : Option (Float × List Char) :=
  let ds := s.takeWhile Char.isDigit
  let rest := s.drop ds.length
  let fs := match rest with
    | '.' :: rest => rest.takeWhile Char.isDigit
    | _ => []
  if ds.isEmpty && fs.isEmpty then none
  else
    let rest := match rest with
      | '.' :: rest => rest.drop fs.length
      | rest => rest
    let (exponent, rest) := Number.writtenExponent ['e', 'E'] rest
    let x := Number.Double.ofDecimal false (decimalValue (ds ++ fs)) (exponent - fs.length)
    some (Float.ofBits x.bits, rest)

/-- Whether an operand ends with a token, so that a slash behind it divides. -/
def Token.endsOperand : Token → Bool
  | .number _ | .text _ | .regex _ | .name _ => true
  | .called s => s = "length"
  | .sign s => s = ")" || s = "]" || s = "$"
  | _ => false

/-- The tokens of a text, each with its line. -/
def tokens : (fuel : Nat) → (line : Nat) → (last : Token) → List Char →
    Except Fault (List (Token × Nat))
  | 0, line, _, _ => .ok [(.finish, line)]
  | _ + 1, line, _, [] => .ok [(.finish, line)]
  | fuel + 1, line, last, c :: rest =>
    let put (t : Token) (behind : List Char) : Except Fault (List (Token × Nat)) := do
      return (t, line) :: (← tokens fuel line t behind)
    if c = '\n' then do
      return (.newline, line) :: (← tokens fuel (line + 1) .newline rest)
    else if c = ' ' || c = '\t' || c = '\r' then tokens fuel line last rest
    else if c = '#' then tokens fuel line last (rest.dropWhile (· ≠ '\n'))
    else if c = '\\' then
      match rest with
      | '\n' :: rest => tokens fuel (line + 1) last rest
      | '\r' :: '\n' :: rest => tokens fuel (line + 1) last rest
      | _ => .error ⟨line, "unexpected character '\\'", true⟩
    else if c = '"' then
      match quoted rest.length rest with
      | some (bs, behind) => put (.text bs) behind
      | none =>
        .error ⟨line, "runaway string constant \"" ++
          String.ofList ((rest.takeWhile (· ≠ '\n')).take 10) ++ " ...", false⟩
    else if c = '/' && !last.endsOperand then
      match slashed rest.length false false rest with
      | some (bs, behind) => put (.regex bs) behind
      | none =>
        .error ⟨line, "runaway regular expression /" ++
          String.ofList ((rest.takeWhile (· ≠ '\n')).take 10) ++ " ...", false⟩
    else match numeral? (c :: rest) with
      | some (x, behind) => put (.number x) behind
      | none =>
        if c.isAlpha || c = '_' then
          let s := (c :: rest).takeWhile fun c => c.isAlphanum || c = '_'
          let behind := (c :: rest).drop s.length
          let name := String.ofList s
          if words.contains name then put (.word name) behind
          else if behind.head? = some '(' || (Builtin.ofName? name).isSome then
            put (.called name) behind
          else put (.name name) behind
        else match signs.find? fun s => s.toList.isPrefixOf (c :: rest) with
          | some s => put (.sign s) ((c :: rest).drop s.length)
          | none =>
            .error ⟨line, "unexpected character '" ++ String.singleton c ++ "'", true⟩

end Assay.Awk
