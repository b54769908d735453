import Assay.Utility.Expression.Match
import Assay.Utility.Expression.Parser
import Assay.Utility.Basic

/-!
# Evaluating arguments

`expr` evaluates a formula whose parts are its arguments: numbers and texts, operators between them,
and words that stand for operations on texts. All values are texts; a number is the text that writes
it. Operands that do not matter any more are gone over without being computed.
-/

namespace Assay.Shell

/-- The number that digits write, with or without a minus. -/
def plainInteger? (s : String) : Option Int :=
  match s.toList with
  | '-' :: ds => (naturalNumber? (String.ofList ds)).map fun n => -(n : Int)
  | _ => (naturalNumber? s).map Int.ofNat

/-- Whether a value counts as none: an empty text or zero. -/
def isNothing (s : String) : Bool :=
  match s.toList with
  | '-' :: c :: cs => (c :: cs).all (· = '0')
  | cs => cs.all (· = '0')

/-- The parts of a formula that are left, and the last one in front of them. -/
structure Parts where
  last : String
  left : List String

/-- Evaluating a formula; an error is a message. -/
abbrev Formula := StateT Parts (Except String)

/-- The next part, which is taken. -/
def takePart : Formula String := do
  let s ← get
  match s.left with
  | part :: left =>
    set ({ last := part, left } : Parts)
    return part
  | [] => throw ("syntax error: missing argument after " ++ quotedName s.last)

/-- Takes the next part if it is one of some. -/
def takeIf (parts : List String) : Formula (Option String) := do
  match (← get).left with
  | part :: _ =>
    if parts.contains part then return some (← takePart) else return none
  | [] => return none

/-- The operators by their precedence, the weakest ones first. -/
def formulaOperators : List (List String) :=
  [["|"], ["&"], ["<", "<=", "=", "==", "!=", ">=", ">"], ["+", "-"], ["*", "/", "%"], [":"]]

/-- What an expression matches at the front of a text: what its first group matched if it has one,
and otherwise how long the match is. -/
def matchedFront (text pattern : String) : Except String String :=
  match Expression.compile { extended := false } false (textBytes pattern) with
  | .error fault => .error fault.message
  | .ok a =>
    let octets : ByteArray := ⟨(textBytes text).toArray⟩
    match Expression.matchAt a { octets } 0 with
    | none => .ok (if a.groups = 0 then "0" else "")
    | some f =>
      if a.groups = 0 then .ok (toString f.stop)
      else
        match f.groups.head?.join with
        | some (i, j) => .ok (Text.decodeLossy (octets.extract i j))
        | none => .ok ""

/-- An operator between two numbers. -/
def computed (op : String) (a b : Int) : Except String Int :=
  match op with
  | "+" => .ok (a + b)
  | "-" => .ok (a - b)
  | "*" => .ok (a * b)
  | "/" => if b = 0 then .error "division by zero" else .ok (a.tdiv b)
  | _ => if b = 0 then .error "division by zero" else .ok (a.tmod b)

/-- Whether a comparison holds between things in an order. -/
def holdsFor (op : String) (order : Ordering) : Bool :=
  match op with
  | "<" => order == .lt
  | "<=" => order != .gt
  | "=" | "==" => order == .eq
  | "!=" => order != .eq
  | ">=" => order != .lt
  | _ => order == .gt

/-- The value of an operator between two values. -/
def combined (op a b : String) : Except String String :=
  match op with
  | "|" => .ok (if !isNothing a then a else if isNothing b then "0" else b)
  | "&" => .ok (if isNothing a || isNothing b then "0" else a)
  | ":" => matchedFront a b
  | "<" | "<=" | "=" | "==" | "!=" | ">=" | ">" =>
    let order := match plainInteger? a, plainInteger? b with
      | some m, some n => compare m n
      | _, _ => compare a b
    .ok (if holdsFor op order then "1" else "0")
  | _ =>
    match plainInteger? a, plainInteger? b with
    | some m, some n => toString <$> computed op m n
    | _, _ => .error "non-integer argument"

/-- The part of a text from a place on, counted from one, and so long at most. -/
def excerpt (text place length : String) : String :=
  match plainInteger? place, plainInteger? length with
  | some p, some n =>
    if p < 1 || n < 1 then ""
    else Text.decodeLossy ⟨(((textBytes text).drop (p.toNat - 1)).take n.toNat).toArray⟩
  | _, _ => ""

/-- The place of the first octet of a text that is one of some, counted from one; zero if there is
none. -/
def placeOfAny (text octets : String) : Nat :=
  (((textBytes text).findIdx? (textBytes octets).contains).map (· + 1)).getD 0

mutual

/-- The value of what is in front of weaker operators than those of a level; `live` says whether it
matters. -/
def formulaValue : (fuel : Nat) → (level : Nat) → (live : Bool) → Formula String
  | 0, _, _ => throw "syntax error"
  | fuel + 1, level, live =>
    if level < formulaOperators.length then do
      let a ← formulaValue fuel (level + 1) live
      formulaRest fuel level live a
    else formulaOperand fuel live

/-- A value with the operators of a level that follow it. -/
def formulaRest : (fuel : Nat) → (level : Nat) → (live : Bool) → String → Formula String
  | 0, _, _, a => return a
  | fuel + 1, level, live, a => do
    match ← takeIf ((formulaOperators[level]?).getD []) with
    | none => return a
    | some op =>
      let matters := live && !(op = "|" && !isNothing a) && !(op = "&" && isNothing a)
      let b ← formulaValue fuel (level + 1) matters
      let value ← if live then (if matters then liftExcept (combined op a b)
        else pure (if op = "|" then a else "0")) else pure a
      formulaRest fuel level live value

/-- The value of an operand: of a text, of an operation on texts, or of a formula in
parentheses. -/
def formulaOperand : (fuel : Nat) → (live : Bool) → Formula String
  | 0, _ => throw "syntax error"
  | fuel + 1, live => do
    match ← takeIf ["+", "length", "match", "index", "substr", "(", ")"] with
    | none => takePart
    | some "+" => takePart
    | some "length" =>
      let a ← formulaOperand fuel live
      return toString a.utf8ByteSize
    | some "match" =>
      let a ← formulaOperand fuel live
      let b ← formulaOperand fuel live
      if live then liftExcept (matchedFront a b) else return a
    | some "index" =>
      let a ← formulaOperand fuel live
      let b ← formulaOperand fuel live
      return toString (placeOfAny a b)
    | some "substr" =>
      let a ← formulaOperand fuel live
      let place ← formulaOperand fuel live
      let length ← formulaOperand fuel live
      return excerpt a place length
    | some "(" =>
      let a ← formulaValue fuel 0 live
      match (← get).left with
      | ")" :: _ =>
        let _ ← takePart
        return a
      | part :: _ => throw ("syntax error: expecting ')' instead of " ++ quotedName part)
      | [] => throw ("syntax error: expecting ')' after " ++ quotedName (← get).last)
    | some _ => throw "syntax error: unexpected ')'"

end

/-- The value of a formula; an error is a message. -/
def evaluated (parts : List String) : Except String String := do
  let fuel := 10 * (parts.length + 2)
  let (value, s) ← (formulaValue fuel 0 true).run { last := "expr", left := parts }
  match s.left with
  | [] => return value
  | part :: _ => throw ("syntax error: unexpected argument " ++ quotedName part)

/-- `expr` prints the value of a formula; its status tells whether that is something. -/
def expr : Utility := fun args => do
  let parts := withoutMark args
  if parts.isEmpty then
    misused "expr" "missing operand"
    return 2
  match evaluated parts with
  | .ok value =>
    printLine value
    return if isNothing value then 1 else 0
  | .error message =>
    complain ("expr: " ++ message)
    return 2

end Assay.Shell
