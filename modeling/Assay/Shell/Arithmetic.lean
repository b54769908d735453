import Assay.Text.Digit

/-!
# Whole-number expressions

Expressions over whole numbers of 64 bits and variables, with the operators, the precedence and the
assignments of the language C. A number too great wraps around. What is not needed for the value, as
behind a truth value that decides, is read but has no effect.
-/

namespace Assay.Shell

/-! ## Numbers -/

/-- The number of 64 bits with a sign that a whole number wraps around to. -/
def wrap (n : Int) : Int :=
  let m := n.emod (Nat.pow 2 64 : Nat)
  if m < (Nat.pow 2 63 : Nat) then m else m - (Nat.pow 2 64 : Nat)

/-- The greatest number of 64 bits with a sign. -/
def maxNumber : Nat := Nat.pow 2 63 - 1

/-- The bits of a number. -/
def bitsOf (n : Int) : Nat :=
  (n.emod (Nat.pow 2 64 : Nat)).toNat

/-- The number of a truth value. -/
def truth (b : Bool) : Int :=
  if b then 1 else 0

/-- The whole number that a text writes, with a sign in front or none. -/
def wholeNumber? (s : List Char) : Option Int :=
  let digits (ds : List Char) : Option Int :=
    if ds.isEmpty || !ds.all Char.isDigit then none else some (Text.digitsValue ds : Nat)
  match s with
  | '-' :: ds => (digits ds).map fun n => -n
  | '+' :: ds => digits ds
  | ds => digits ds

/-- The value of a digit in any base; that of no digit is greater than every base. -/
def digitValue (c : Char) : Nat :=
  if c.isDigit then c.toNat - '0'.toNat
  else if c.isAlpha then c.toLower.toNat - 'a'.toNat + 10
  else 36

/-- The digits in front of a text in a base, and what is behind them. -/
def digitsIn (base : Nat) (s : List Char) : List Char × List Char :=
  s.span fun c => digitValue c < base

/-- The number that digits write in a base. -/
def numberIn (base : Nat) (ds : List Char) : Nat :=
  ds.foldl (fun n c => base * n + digitValue c) 0

/-- The number in front of a text without a sign, in base sixteen or eight if its front says so; and
what is behind it. -/
def unsignedNumber (s : List Char) : Option (Nat × List Char) :=
  let number (base : Nat) (s : List Char) : Option (Nat × List Char) :=
    match digitsIn base s with
    | ([], _) => none
    | (ds, rest) => some (numberIn base ds, rest)
  match s with
  | '0' :: x :: rest =>
    if x = 'x' || x = 'X' then
      match number 16 rest with
      | some found => some found
      | none => some (0, x :: rest)
    else number 8 s
  | s => number 10 s

/-- The number that the value of a variable writes, blanks around it left aside; nothing is zero.
None if it writes no number. -/
def variableNumber? (s : String) : Option Int :=
  let isGap (c : Char) : Bool := c = ' ' || ('\t' ≤ c && c ≤ '\r')
  let cs := s.toList.dropWhile isGap
  let (minus, digits) := match cs with
    | '-' :: ds => (true, ds)
    | '+' :: ds => (false, ds)
    | ds => (false, ds)
  match unsignedNumber digits with
  | none => if cs.isEmpty then some 0 else none
  | some (n, rest) =>
    if !(rest.dropWhile isGap).isEmpty || n > maxNumber then none
    else some (if minus then -(n : Int) else n)

/-! ## Words of an expression -/

/-- A word of an expression. -/
inductive ExprWord where
  | number (n : Int)
  | name (s : String)
  | sign (s : String)
  /-- What has no place in an expression. -/
  | stray
deriving DecidableEq

/-- The signs, longer ones first. -/
def exprSigns : List String :=
  ["<<=", ">>=", "||", "&&", "==", "!=", "<=", ">=", "<<", ">>", "+=", "-=", "*=", "/=", "%=", "&=",
    "^=", "|=", "<", ">", "+", "-", "*", "/", "%", "&", "^", "|", "!", "~", "(", ")", "?", ":", "="]

/-- The words of an expression, which is not longer than the fuel. -/
def exprWords : (fuel : Nat) → List Char → List ExprWord
  | 0, _ => []
  | _ + 1, [] => []
  | fuel + 1, c :: rest =>
    let isNameChar (d : Char) : Bool := d.isAlphanum || d == '_'
    if c = ' ' || c = '\t' || c = '\n' then exprWords fuel rest
    else if c.isDigit then
      match unsignedNumber (c :: rest) with
      | some (n, rest) => .number (min n maxNumber : Nat) :: exprWords fuel rest
      | none => .stray :: exprWords fuel rest
    else if isNameChar c then
      let (name, rest) := (c :: rest).span isNameChar
      .name (String.ofList name) :: exprWords fuel rest
    else
      match exprSigns.find? fun s => s.toList.isPrefixOf (c :: rest) with
      | some s => .sign s :: exprWords fuel ((c :: rest).drop s.length)
      | none => .stray :: exprWords fuel rest

/-! ## Evaluation -/

/-- Why an expression has no value. -/
inductive ExprFault where
  | expecting (what : String)
  | zeroDivision
  /-- A variable holds a text that writes no number. -/
  | illegalNumber (text : String)

/-- A fault of an expression in words. -/
def ExprFault.message (expression : String) : ExprFault → String
  | .expecting what => "arithmetic expression: expecting " ++ what ++ ": \"" ++ expression ++ "\""
  | .zeroDivision => "arithmetic expression: division by zero: \"" ++ expression ++ "\""
  | .illegalNumber text => "Illegal number: " ++ text

/-- The words that are left of an expression, and the variables that it has set, the last one
first. -/
structure ExprState where
  words : List ExprWord
  assigned : List (String × Int) := []

/-- What evaluates a part of an expression. -/
abbrev Expr := StateT ExprState (Except ExprFault)

/-- The precedence of the operators for two numbers; those of a greater one bind more tightly. -/
def precedence? (sign : String) : Option Nat :=
  match sign with
  | "|" => some 1
  | "^" => some 2
  | "&" => some 3
  | "==" | "!=" => some 4
  | "<" | ">" | "<=" | ">=" => some 5
  | "<<" | ">>" => some 6
  | "+" | "-" => some 7
  | "*" | "/" | "%" => some 8
  | _ => none

/-- What an operator makes of two numbers. -/
def operate (sign : String) (a b : Int) : Except ExprFault Int :=
  let places := (bitsOf b) % 64
  match sign with
  | "|" => .ok (wrap (bitsOf a ||| bitsOf b : Nat))
  | "^" => .ok (wrap (bitsOf a ^^^ bitsOf b : Nat))
  | "&" => .ok (wrap (bitsOf a &&& bitsOf b : Nat))
  | "==" => .ok (truth (a = b))
  | "!=" => .ok (truth (a ≠ b))
  | "<=" => .ok (truth (a ≤ b))
  | ">=" => .ok (truth (b ≤ a))
  | "<" => .ok (truth (a < b))
  | ">" => .ok (truth (b < a))
  | "<<" => .ok (wrap (a * (Nat.pow 2 places : Nat)))
  | ">>" => .ok (a.fdiv (Nat.pow 2 places : Nat))
  | "+" => .ok (wrap (a + b))
  | "-" => .ok (wrap (a - b))
  | "*" => .ok (wrap (a * b))
  | "/" => if b = 0 then .error .zeroDivision else .ok (wrap (Int.tdiv a b))
  | "%" => if b = 0 then .error .zeroDivision else .ok (Int.tmod a b)
  | _ => .error (.expecting "primary")

/-- The operator in front of the equals sign of an assignment; the empty one if the value is only
set. -/
def assignmentOperator? : ExprWord → Option String
  | .sign "=" => some ""
  | .sign s =>
    match s.toList.reverse with
    | '=' :: op =>
      let op := String.ofList op.reverse
      if (precedence? op).isSome && op ∉ ["=", "<", ">"] then some op else none
    | _ => none
  | _ => none

namespace Expr

/-- Takes the next word, if there is one. -/
def take : Expr (Option ExprWord) := do
  match (← get).words with
  | [] => return none
  | w :: rest =>
    modify ({ · with words := rest })
    return some w

/-- Whether a sign stands in front. -/
def isNext (sign : String) : Expr Bool :=
  return (← get).words.head? = some (.sign sign)

/-- The value of a variable, if that matters: the last that was set, or the one from before. -/
def current (value : String → Except ExprFault Int) (idle : Bool) (name : String) : Expr Int := do
  if idle then return 0
  match (← get).assigned.lookup name with
  | some n => return n
  | none => value name

mutual

/-- The value of an assignment or of what may stand in its place. `idle` says that it does not
matter. -/
def assignment (value : String → Except ExprFault Int) : (fuel : Nat) → (idle : Bool) → Expr Int
  | 0, _ => throw (.expecting "primary")
  | fuel + 1, idle => do
    match (← get).words with
    | .name name :: sign :: rest =>
      match assignmentOperator? sign with
      | none => choice value fuel idle
      | some op =>
        modify ({ · with words := rest })
        let n ← assignment value fuel idle
        if idle then return n
        let n ← if op.isEmpty then pure n
          else do operate op (← current value idle name) n
        modify fun s => { s with assigned := (name, n) :: s.assigned }
        return n
    | _ => choice value fuel idle

/-- One of two values, by a truth value, or that one alone. -/
def choice (value : String → Except ExprFault Int) : (fuel : Nat) → (idle : Bool) → Expr Int
  | 0, _ => throw (.expecting "primary")
  | fuel + 1, idle => do
    let a ← anyOf value fuel idle
    if !(← isNext "?") then return a
    let _ ← take
    let b ← assignment value fuel (idle || a = 0)
    if !(← isNext ":") then throw (.expecting "':'")
    let _ ← take
    let c ← choice value fuel (idle || a ≠ 0)
    return if a ≠ 0 then b else c

/-- Truth values of which one must hold. -/
def anyOf (value : String → Except ExprFault Int) : (fuel : Nat) → (idle : Bool) → Expr Int
  | 0, _ => throw (.expecting "primary")
  | fuel + 1, idle => do
    let a ← allOf value fuel idle
    if !(← isNext "||") then return a
    let _ ← take
    let b ← anyOf value fuel (idle || a ≠ 0)
    return truth (a ≠ 0 || b ≠ 0)

/-- Truth values that must all hold. -/
def allOf (value : String → Except ExprFault Int) : (fuel : Nat) → (idle : Bool) → Expr Int
  | 0, _ => throw (.expecting "primary")
  | fuel + 1, idle => do
    let a ← operand value fuel idle
    let a ← operation value fuel idle 0 a
    if !(← isNext "&&") then return a
    let _ ← take
    let b ← allOf value fuel (idle || a = 0)
    return truth (a ≠ 0 && b ≠ 0)

/-- The value of operators of some precedence at least, with the first operand in front of them. -/
def operation (value : String → Except ExprFault Int) :
    (fuel : Nat) → (idle : Bool) → (least : Nat) → Int → Expr Int
  | 0, _, _, _ => throw (.expecting "primary")
  | fuel + 1, idle, least, a => do
    match (← get).words with
    | .sign sign :: rest =>
      match precedence? sign with
      | none => return a
      | some level =>
        if level < least then return a
        modify ({ · with words := rest })
        let b ← operand value fuel idle
        let b ← operation value fuel idle (level + 1) b
        let n ← if idle then pure b else operate sign a b
        operation value fuel idle least n
    | _ => return a

/-- The value of an operand. -/
def operand (value : String → Except ExprFault Int) : (fuel : Nat) → (idle : Bool) → Expr Int
  | 0, _ => throw (.expecting "primary")
  | fuel + 1, idle => do
    match ← take with
    | some (.number n) => return n
    | some (.name name) => current value idle name
    | some (.sign "(") =>
      let n ← assignment value fuel idle
      if !(← isNext ")") then throw (.expecting "')'")
      let _ ← take
      return n
    | some (.sign "+") => operand value fuel idle
    | some (.sign "-") => return wrap (-(← operand value fuel idle))
    | some (.sign "!") => return truth ((← operand value fuel idle) = 0)
    | some (.sign "~") => return -1 - (← operand value fuel idle)
    | _ => throw (.expecting "primary")

end

end Expr

/-- The value of an expression, and the variables that it sets in order. -/
def evaluate (value : String → Except ExprFault Int) (s : String) :
    Except ExprFault (Int × List (String × Int)) := do
  let words := exprWords (s.length + 1) s.toList
  let (n, final) ← (Expr.assignment value (8 * words.length + 8) false).run { words }
  if final.words.isEmpty then return (n, final.assigned.reverse) else throw (.expecting "EOF")

end Assay.Shell
