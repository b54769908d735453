import Assay.Utility.Expression.Basic

/-!
# Programs of `awk`

A program is a list of rules, each with a pattern that says for which records its statements are
carried out, and of functions. Variables are shared by all rules and functions, but the parameters
of a function belong to one call of it.
-/

namespace Assay.Awk

open Expression

/-- A variable: shared by its name, or a parameter by its place. -/
inductive Name where
  | shared (name : String)
  | own (place : Nat)
deriving DecidableEq, Inhabited

/-- What is done with two numbers. -/
inductive Operator where
  | add
  | subtract
  | multiply
  | divide
  | remainder
  | power
deriving DecidableEq

/-- How two values are compared. -/
inductive Comparison where
  | less
  | atMost
  | equal
  | different
  | greater
  | atLeast
deriving DecidableEq

/-- The functions that there are without a definition. -/
inductive Builtin where
  | length
  | substr
  | index
  | split
  | sub
  | gsub
  | «match»
  | sprintf
  | sin
  | cos
  | atan2
  | exp
  | log
  | sqrt
  | int
  | rand
  | srand
  | tolower
  | toupper
  | close
  | system
  | fflush
deriving DecidableEq

/-- The function of a name. -/
def Builtin.ofName? : String → Option Builtin
  | "length" => some .length
  | "substr" => some .substr
  | "index" => some .index
  | "split" => some .split
  | "sub" => some .sub
  | "gsub" => some .gsub
  | "match" => some .match
  | "sprintf" => some .sprintf
  | "sin" => some .sin
  | "cos" => some .cos
  | "atan2" => some .atan2
  | "exp" => some .exp
  | "log" => some .log
  | "sqrt" => some .sqrt
  | "int" => some .int
  | "rand" => some .rand
  | "srand" => some .srand
  | "tolower" => some .tolower
  | "toupper" => some .toupper
  | "close" => some .close
  | "system" => some .system
  | "fflush" => some .fflush
  | _ => none

/-- How many arguments a function takes at least and at most. -/
def Builtin.arity : Builtin → Nat × Nat
  | .length => (0, 1)
  | .substr => (2, 3)
  | .index | .match | .atan2 => (2, 2)
  | .split | .sub | .gsub => (2, 3)
  | .sprintf => (1, 255)
  | .rand => (0, 0)
  | .srand | .fflush => (0, 1)
  | _ => (1, 1)

/-- Where a record or a line is read from. -/
inductive Origin where
  | input
  | file
  | command

/-- An expression. -/
inductive Expr where
  | number (x : Float)
  | text (bs : List UInt8)
  | regex (a : Automaton)
  | variable (n : Name)
  | field (place : Expr)
  | element (table : Name) (subscripts : List Expr)
  | assign (op : Option Operator) (target value : Expr)
  /-- Adds a number to a variable; the value is the one from before it or from behind it. -/
  | bump (before : Bool) (step : Float) (target : Expr)
  | conditional (c a b : Expr)
  | both (a b : Expr)
  | either (a b : Expr)
  | not (a : Expr)
  | minus (a : Expr)
  | plus (a : Expr)
  | arithmetic (op : Operator) (a b : Expr)
  | compare (c : Comparison) (a b : Expr)
  | joined (a b : Expr)
  | found (wanted : Bool) (subject pattern : Expr)
  | member (subscripts : List Expr) (table : Name)
  | call (function : String) (args : List Expr)
  | builtin (b : Builtin) (args : List Expr)
  /-- Reads a record or a line; where it comes from, and where it is put if not in the place of the
  record. -/
  | getline (origin : Origin) (source : Option Expr) (target : Option Expr)
  /-- An expression in parentheses. -/
  | grouped (e : Expr)
  /-- Several expressions in parentheses. -/
  | listed (es : List Expr)
deriving Inhabited

/-- Where output goes. -/
inductive Outlet where
  | file
  | appended
  | command
deriving DecidableEq

/-- A statement. -/
inductive Stmt where
  | evaluate (e : Expr)
  | print (args : List Expr) (goal : Option (Outlet × Expr))
  | printf (args : List Expr) (goal : Option (Outlet × Expr))
  | branch (c : Expr) (a : Stmt) (b : Option Stmt)
  | loop (c : Option Expr) (body : Stmt) (step : Option Stmt)
  | loopAfter (body : Stmt) (c : Expr)
  | forKeys (v : Name) (table : Name) (body : Stmt)
  | block (ss : List Stmt)
  | next
  | nextFile
  | leave (status : Option Expr)
  | giveBack (e : Option Expr)
  | leaveLoop
  | nextRound
  | delete (table : Name) (subscripts : List Expr)
  | clear (table : Name)
deriving Inhabited

/-- When the statements of a rule are carried out. -/
inductive Pattern where
  | first
  | last
  | always
  | condition (e : Expr)
  | range (a b : Expr)

/-- A rule; without statements the record is printed. -/
structure Rule where
  pattern : Pattern
  body : Option Stmt

/-- A function: how many parameters it has, and what it does. -/
structure Function where
  parameters : Nat
  body : Stmt

/-- A program. -/
structure Program where
  rules : List Rule := []
  functions : List (String × Function) := []
  /-- The shared names that are tables. -/
  tables : List String := []

end Assay.Awk
