import Assay.Shell.Arithmetic
import Assay.Shell.State

/-!
# Conditions

What `test` finds out about texts, numbers and files. Three arguments with an operator in the middle
are compared whatever they look like; otherwise signs combine and negate what stands around them,
and an argument that is no sign is true unless it is empty.

A reader of conditions gets the arguments from the one at which it begins, and leaves them from the
last one that it used.
-/

namespace Assay.Shell

open Machine Host

/-- Why arguments are no condition. -/
inductive ConditionFault where
  | illegalNumber (s : String)
  | unexpected (s : String)
  | noClosing
  | noArgument (sign : String)

/-- A fault in words. -/
def ConditionFault.message : ConditionFault → String
  | .illegalNumber s => "Illegal number: " ++ s
  | .unexpected s => s ++ ": unexpected operator"
  | .noClosing => "closing paren expected"
  | .noArgument sign => sign ++ ": argument expected"

/-- What an argument is. -/
inductive Sign where
  | unary
  | binary
  | negation
  | both
  | either
  | opening
  | closing
deriving DecidableEq

/-- The sign that an argument looks like. -/
def Sign.ofText? (s : String) : Option Sign :=
  if ["-r", "-w", "-x", "-e", "-f", "-d", "-c", "-b", "-p", "-u", "-g", "-k", "-s", "-t", "-z",
    "-n", "-h", "-O", "-G", "-L", "-S"].contains s then some .unary
  else if ["=", "!=", "<", ">", "-eq", "-ne", "-ge", "-gt", "-le", "-lt", "-nt", "-ot",
    "-ef"].contains s then some .binary
  else if s = "!" then some .negation
  else if s = "-a" then some .both
  else if s = "-o" then some .either
  else if s = "(" then some .opening
  else if s = ")" then some .closing
  else none

/-- The sign at the front of arguments. What looks like a sign but has nothing to go with it is
none. -/
def signOf : List String → Option Sign
  | [] => none
  | s :: rest =>
    match Sign.ofText? s, rest with
    | some .unary, [] => none
    | some .unary, t :: _ :: _ => if Sign.ofText? t = some .binary then none else some .unary
    | some .opening, [] => none
    | sign, _ => sign

/-! ## Single findings -/

/-- The part of a tree at a path. -/
def partAt (s : State) (follow : Bool) (path : String) : Option Tree :=
  match find s.world.root s.shell.directory follow path with
  | .ok (_, t) => some t
  | .error _ => none

/-- What a part of a tree is to a condition: the streams of a shell are what they lead to. -/
inductive Kind where
  | file (mode : Nat) (size : Nat)
  | dir (mode : Nat)
  | character
  | channel
deriving DecidableEq

/-- The kind of what a stream leads to. -/
def streamKind (s : State) : Stream → Option Kind
  | .closed => none
  | .null | .endless _ => some .character
  | .channel _ => some .channel
  | .file i =>
    match (s.world.opened[i]?).bind fun o => s.world.root.get? o.path with
    | some (.file mode c) => some (.file mode c.size)
    | some (.dir mode _) => some (.dir mode)
    | _ => none

/-- The kind of what stands at a path. -/
def kindAt (s : State) (path : String) : Option Kind :=
  match partAt s true path with
  | some (.file mode c) => some (.file mode c.size)
  | some (.dir mode _) => some (.dir mode)
  | some (.device (.stream n)) => streamKind s ((s.shell.streams.lookup n).getD .closed)
  | some (.device _) => some .character
  | some (.link _) | none => none

/-- The bits of a kind. -/
def Kind.mode : Kind → Nat
  | .file mode _ | .dir mode => mode
  | .character | .channel => 0o666

/-- What a sign finds out about an argument. -/
def unaryHolds (s : State) (sign arg : String) : Bool :=
  let kind := kindAt s arg
  match sign with
  | "-n" => !arg.isEmpty
  | "-z" => arg.isEmpty
  | "-e" | "-O" | "-G" => kind.isSome
  | "-f" => kind.any fun k => (k matches .file ..)
  | "-d" => kind.any fun k => (k matches .dir _)
  | "-c" => kind = some .character
  | "-p" => kind = some .channel
  | "-h" | "-L" => (partAt s false arg).any fun t => (t matches .link _)
  | "-r" => kind.any fun k => mayRead k.mode
  | "-w" => kind.any fun k => mayWrite k.mode
  | "-x" => kind.any fun k => maySearch k.mode
  | "-u" => kind.any fun k => k.mode.testBit 11
  | "-g" => kind.any fun k => k.mode.testBit 10
  | "-k" => kind.any fun k => k.mode.testBit 9
  | "-s" => kind.any fun k => match k with
    | .file _ size => size > 0
    | .dir _ => true
    | _ => false
  | _ => false

/-- The number that an argument writes. -/
def numberOf (s : String) : Except ConditionFault Int :=
  match wholeNumber? s.trimAscii.toString.toList with
  | some n => .ok n
  | none => .error (.illegalNumber s)

/-- What a sign finds out about two numbers. -/
def compareNumbers (a b : String) (holds : Int → Int → Bool) : Except ConditionFault Bool := do
  return holds (← numberOf a) (← numberOf b)

/-- What a sign finds out about two arguments. Files have no age. -/
def binaryHolds (s : State) (a sign b : String) : Except ConditionFault Bool :=
  match sign with
  | "=" => .ok (a = b)
  | "!=" => .ok (a ≠ b)
  | "<" => .ok (a < b)
  | ">" => .ok (b < a)
  | "-eq" => compareNumbers a b (· = ·)
  | "-ne" => compareNumbers a b (· ≠ ·)
  | "-lt" => compareNumbers a b (· < ·)
  | "-le" => compareNumbers a b (· ≤ ·)
  | "-gt" => compareNumbers a b (· > ·)
  | "-ge" => compareNumbers a b (· ≥ ·)
  | "-ef" =>
    let place (p : String) := (find s.world.root s.shell.directory true p).toOption.map Prod.fst
    .ok ((place a).isSome && place a = place b)
  | _ => .ok false

/-- The condition of two arguments with a sign between them. -/
def comparison (s : State) : List String → Except ConditionFault (Bool × List String)
  | a :: sign :: b :: rest => do return (← binaryHolds s a sign b, b :: rest)
  | _ :: sign :: [] => .error (.noArgument sign)
  | args => .ok (false, args)

/-! ## Combinations -/

mutual

/-- Alternatives. -/
def anyOf (s : State) : (fuel : Nat) → List String → Except ConditionFault (Bool × List String)
  | 0, args => .ok (false, args)
  | fuel + 1, args => do
    let (a, last) ← allOf s fuel args
    if signOf last.tail = some .either then
      let (b, last) ← anyOf s fuel (last.drop 2)
      return (a || b, last)
    else return (a, last)

/-- Conditions that must all hold. -/
def allOf (s : State) : (fuel : Nat) → List String → Except ConditionFault (Bool × List String)
  | 0, args => .ok (false, args)
  | fuel + 1, args => do
    let (a, last) ← negatable s fuel args
    if signOf last.tail = some .both then
      let (b, last) ← allOf s fuel (last.drop 2)
      return (a && b, last)
    else return (a, last)

/-- A condition or its negation. -/
def negatable (s : State) : (fuel : Nat) → List String → Except ConditionFault (Bool × List String)
  | 0, args => .ok (false, args)
  | fuel + 1, args =>
    if signOf args = some .negation then
      match args.tail with
      | [] => .ok (true, args)
      | rest => do
        let (a, last) ← negatable s fuel rest
        return (!a, last)
    else single s fuel args

/-- A condition that is no combination. -/
def single (s : State) : (fuel : Nat) → List String → Except ConditionFault (Bool × List String)
  | 0, args => .ok (false, args)
  | _ + 1, [] => .ok (false, [])
  | fuel + 1, a :: rest =>
    match signOf (a :: rest), rest with
    | some .opening, rest =>
      if signOf rest = some .closing then .ok (false, rest)
      else do
        let (x, last) ← anyOf s fuel rest
        if signOf last.tail = some .closing then return (x, last.tail) else throw .noClosing
    | some .unary, b :: rest => .ok (unaryHolds s a b, b :: rest)
    | _, rest =>
      if signOf rest = some .binary then comparison s (a :: rest)
      else .ok (!a.isEmpty, a :: rest)

end

/-- The condition that all arguments make. -/
def whole (s : State) (args : List String) : Except ConditionFault Bool := do
  match ← anyOf s (4 * args.length + 4) args with
  | (_, last :: _ :: _) => throw (.unexpected last)
  | (x, _) => return x

/-- Whether a condition holds. -/
def condition (s : State) (args : List String) : Except ConditionFault Bool :=
  match args with
  | [] => .ok false
  | [a, sign, b] =>
    if Sign.ofText? sign = some .binary then binaryHolds s a sign b
    else if a = "(" && b = ")" then whole s [sign]
    else if a = "!" then (whole s [sign, b]).map (!·)
    else whole s args
  | [a, b, c, d] =>
    if a = "(" && d = ")" then whole s [b, c]
    else if a = "!" then
      match Sign.ofText? c with
      | some .binary => (binaryHolds s b c d).map (!·)
      | _ => (whole s [b, c, d]).map (!·)
    else whole s args
  | args => whole s args

end Assay.Shell
