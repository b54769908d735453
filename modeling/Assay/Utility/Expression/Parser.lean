import Assay.Utility.Expression.Basic

/-!
# Reading expressions

There are two ways to write an expression. In the basic one parentheses, braces and bars stand for
themselves and have a meaning behind a backslash; in the extended one it is the other way round. An
asterisk where there is nothing to repeat, and anchors in the midst of a basic expression, stand for
themselves. In brackets a backslash stands for itself, unless escapes are allowed there.
-/

namespace Assay.Expression

/-- How expressions are written. -/
structure Dialect where
  extended : Bool
  /-- Whether signs of an extended expression that have no meaning where they stand are gone over
  or stand for themselves. -/
  lenient : Bool := false
  /-- Whether braces of an extended expression stand for themselves if they are no repetition. -/
  looseBraces : Bool := false
  /-- Whether a bracket that looks like the name of a class is refused. -/
  classesChecked : Bool := false
  /-- Whether a backslash in brackets protects what follows. -/
  bracketEscapes : Bool := false
  /-- Whether letters behind a backslash may have a meaning besides those of control characters. -/
  wordSigns : Bool := true

/-- The octets of a class. -/
def classBytes? (name : String) : Option (List UInt8) :=
  let range (a b : Nat) : List UInt8 := (List.range (b + 1 - a)).map fun n => UInt8.ofNat (a + n)
  let lower := range 97 122
  let upper := range 65 90
  let digits := range 48 57
  match name with
  | "alpha" => some (upper ++ lower)
  | "digit" => some digits
  | "alnum" => some (digits ++ upper ++ lower)
  | "upper" => some upper
  | "lower" => some lower
  | "space" => some (range 9 13 ++ [32])
  | "blank" => some [9, 32]
  | "punct" => some (range 33 47 ++ range 58 64 ++ range 91 96 ++ range 123 126)
  | "print" => some (range 32 126)
  | "graph" => some (range 33 126)
  | "cntrl" => some (range 0 31 ++ [127])
  | "xdigit" => some (digits ++ range 65 70 ++ range 97 102)
  | _ => none

/-- The octets of words. -/
def wordBytes : List UInt8 :=
  95 :: (classBytes? "alnum").getD []

/-- The octets of blanks. -/
def spaceBytes : List UInt8 :=
  (classBytes? "space").getD []

/-- The octet that a letter behind a backslash stands for. -/
def controlEscape? (b : UInt8) : Option UInt8 :=
  match Char.ofNat b.toNat with
  | 'a' => some 7
  | 'f' => some 12
  | 'n' => some 10
  | 'r' => some 13
  | 't' => some 9
  | 'v' => some 11
  | _ => none

/-- The text up to two octets, and what is behind them. -/
def upTo (a b : UInt8) : List UInt8 → Option (List UInt8 × List UInt8)
  | x :: y :: rest =>
    if x = a && y = b then some ([], rest)
    else (upTo a b (y :: rest)).map fun (inner, behind) => (x :: inner, behind)
  | _ => none

/-- An octet of a bracket, and what is behind it; the fuel bounds nothing but the reader. -/
def bracketByte (dialect : Dialect) : List UInt8 → Except FormFault (UInt8 × List UInt8)
  | 91 :: 46 :: rest =>
    match upTo 46 93 rest with
    | some ([b], behind) => .ok (b, behind)
    | some _ => .error .badCollation
    | none => .error .openBracket
  | 92 :: b :: rest =>
    if dialect.bracketEscapes then .ok ((controlEscape? b).getD b, rest) else .ok (92, b :: rest)
  | b :: rest => .ok (b, rest)
  | [] => .error .openBracket

/-- The members of a bracket up to the one that closes it, and what is behind it. -/
def bracketMembers (dialect : Dialect) :
    (fuel : Nat) → (first : Bool) → List UInt8 → Except FormFault (List UInt8 × List UInt8)
  | 0, _, _ => .error .openBracket
  | fuel + 1, first, s =>
    match s with
    | [] => .error .openBracket
    | 93 :: rest =>
      if first then member fuel (93 :: rest) else .ok ([], rest)
    | 91 :: 58 :: rest =>
      match upTo 58 93 rest with
      | none => .error .openBracket
      | some (name, behind) =>
        match classBytes? (String.ofList (name.map fun b => Char.ofNat b.toNat)) with
        | none => .error .badClass
        | some bs => do
          let (more, behind) ← bracketMembers dialect fuel false behind
          return (bs ++ more, behind)
    | 91 :: 61 :: rest =>
      match upTo 61 93 rest with
      | some ([b], behind) => do
        let (more, behind) ← bracketMembers dialect fuel false behind
        return (b :: more, behind)
      | some _ => .error .badCollation
      | none => .error .openBracket
    | s => member fuel s
where
  /-- A member that may be a range. -/
  member (fuel : Nat) (s : List UInt8) : Except FormFault (List UInt8 × List UInt8) := do
    let (low, rest) ← bracketByte dialect s
    match rest with
    | 45 :: 93 :: _ => do
      let (more, behind) ← bracketMembers dialect fuel false rest
      return (low :: more, behind)
    | 45 :: high => do
      let (high, behind) ← bracketByte dialect high
      if high < low then throw .badRange
      let range := (List.range (high.toNat + 1 - low.toNat)).map fun n =>
        UInt8.ofNat (low.toNat + n)
      let (more, behind) ← bracketMembers dialect fuel false behind
      return (range ++ more, behind)
    | rest => do
      let (more, behind) ← bracketMembers dialect fuel false rest
      return (low :: more, behind)

/-- The expression of a bracket from behind it, and what is behind it. -/
def bracket (dialect : Dialect) (s : List UInt8) : Except FormFault (Form × List UInt8) := do
  let (complement, s) := match s with
    | 94 :: rest => (true, rest)
    | s => (false, s)
  if s.isEmpty then throw .bareBracket
  let (members, rest) ← bracketMembers dialect (2 * s.length + 4) true s
  if dialect.classesChecked && !complement && s.head? = some 58 then
    let inner := s.tail.takeWhile fun b => 97 ≤ b && b ≤ 122
    if !inner.isEmpty && (s.drop (inner.length + 1)).take 2 = [58, 93] then throw .bareClass
  return (.octet { members, complement }, rest)

/-- A number in front of octets. -/
def numberIn (s : List UInt8) : Option Nat × List UInt8 :=
  let ds := s.takeWhile fun b => 48 ≤ b && b ≤ 57
  (if ds.isEmpty then none else some (ds.foldl (fun n d => 10 * n + (d.toNat - 48)) 0),
    s.drop ds.length)

/-- The bounds of a repetition between braces, from behind the first one; and what is behind. -/
def bounds (extended : Bool) (s : List UInt8) :
    Except FormFault (Nat × Option Nat × List UInt8) :=
  let close (least : Nat) (most : Option Nat) (s : List UInt8) :
      Except FormFault (Nat × Option Nat × List UInt8) :=
    if most.any (· < least) then .error .badBounds
    else if least > 32767 || most.any (· > 32767) then .error .tooBig
    else
      match extended, s with
      | true, 125 :: rest => .ok (least, most, rest)
      | false, 92 :: 125 :: rest => .ok (least, most, rest)
      | _, [] => .error .openBrace
      | _, _ => .error .badBrace
  match numberIn s with
  | (least, 44 :: rest) =>
    let (most, rest) := numberIn rest
    if least.isNone && most.isNone && !extended then close 0 none rest
    else close (least.getD 0) most rest
  | (some n, rest) => close n (some n) rest
  | (none, []) => .error .openBrace
  | (none, _) => .error .badBrace

/-- What stands in front of octets. -/
inductive Sign where
  | one (e : Form)
  | opening
  | closing
  | bar
  | star
  | plus
  | question
  | brace
  | reference (n : Nat)
  | caret
  | dollar

/-- The meaning of an octet behind a backslash. -/
def escaped (dialect : Dialect) (b : UInt8) : Sign :=
  let letter (e : Form) : Sign := if dialect.wordSigns then .one e else .one (.octet ⟨[b], false⟩)
  match Char.ofNat b.toNat with
  | '(' => if dialect.extended then .one (.octet ⟨[b], false⟩) else .opening
  | ')' => if dialect.extended then .one (.octet ⟨[b], false⟩) else .closing
  | '|' => if dialect.extended then .one (.octet ⟨[b], false⟩) else .bar
  | '\x7b' => if dialect.extended then .one (.octet ⟨[b], false⟩) else .brace
  | '+' => if dialect.extended then .one (.octet ⟨[b], false⟩) else .plus
  | '?' => if dialect.extended then .one (.octet ⟨[b], false⟩) else .question
  | 'w' => letter (.octet ⟨wordBytes, false⟩)
  | 'W' => letter (.octet ⟨wordBytes, true⟩)
  | 's' => letter (.octet ⟨spaceBytes, false⟩)
  | 'S' => letter (.octet ⟨spaceBytes, true⟩)
  | '<' => letter (.anchor .wordStart)
  | '>' => letter (.anchor .wordEnd)
  | 'b' => letter (.anchor .wordBoundary)
  | 'B' => letter (.anchor .noBoundary)
  | '\x60' => letter (.anchor .textStart)
  | '\'' => letter (.anchor .textEnd)
  | c =>
    if dialect.wordSigns && c.isDigit && c ≠ '0' then .reference (c.toNat - 48)
    else match controlEscape? b with
      | some e => .one (.octet ⟨[e], false⟩)
      | none => .one (.octet ⟨[b], false⟩)

/-- The sign in front of octets, and what is behind it. -/
def signOf (dialect : Dialect) : List UInt8 → Except FormFault (Option (Sign × List UInt8))
  | [] => .ok none
  | 92 :: [] => .error .trailingBackslash
  | 92 :: b :: rest => .ok (some (escaped dialect b, rest))
  | 91 :: rest => do
    let (e, rest) ← bracket dialect rest
    return some (.one e, rest)
  | 46 :: rest => .ok (some (.one (.octet ⟨[], true⟩), rest))
  | 42 :: rest => .ok (some (.star, rest))
  | 94 :: rest => .ok (some (.caret, rest))
  | 36 :: rest => .ok (some (.dollar, rest))
  | b :: rest =>
    let plain : Sign := .one (.octet ⟨[b], false⟩)
    if dialect.extended then
      .ok (some (match Char.ofNat b.toNat with
        | '(' => .opening
        | ')' => .closing
        | '|' => .bar
        | '+' => .plus
        | '?' => .question
        | '\x7b' => .brace
        | _ => plain, rest))
    else .ok (some (plain, rest))

/-- Whether a basic expression or a part of it ends in front of octets. -/
def endsBasic : List UInt8 → Bool
  | [] => true
  | 92 :: 41 :: _ | 92 :: 124 :: _ => true
  | _ => false

/-- One expression behind another. -/
def Form.andThen : Form → Form → Form
  | .empty, b => b
  | a, .empty => a
  | a, b => .sequence a b

/-- A parsed part: the expression, what is behind it, and the number of the last group. -/
structure Parsed where
  expr : Form
  rest : List UInt8
  groups : Nat

mutual

/-- Reads alternatives up to the end or to a closing sign; `depth` is the number of open groups. -/
def alternatives (dialect : Dialect) :
    (fuel : Nat) → (depth groups : Nat) → List UInt8 → Except FormFault Parsed
  | 0, _, _, _ => .error .openGroup
  | fuel + 1, depth, groups, s => do
    let p ← branch dialect fuel depth groups .empty none true s
    match ← signOf dialect p.rest with
    | some (.bar, rest) => do
      let q ← alternatives dialect fuel depth p.groups rest
      return { q with expr := .either p.expr q.expr }
    | _ => return p

/-- Reads a sequence; `done` is what has been read of it, `last` the part that a sign may repeat,
and `start` says whether an anchor would stand at the beginning. -/
def branch (dialect : Dialect) :
    (fuel : Nat) → (depth groups : Nat) → (done : Form) → (last : Option Form) → (start : Bool) →
      List UInt8 → Except FormFault Parsed
  | 0, _, _, _, _, _, _ => .error .openGroup
  | fuel + 1, depth, groups, done, last, start, s => do
    let all : Form := match last with
      | some e => done.andThen e
      | none => done
    let goOn (e : Form) (groups : Nat) (rest : List UInt8) : Except FormFault Parsed :=
      branch dialect fuel depth groups all (some e) false rest
    let literal (b : UInt8) (rest : List UInt8) : Except FormFault Parsed :=
      goOn (.octet ⟨[b], false⟩) groups rest
    let repeats (least : Nat) (most : Option Nat) (b : UInt8) (rest : List UInt8) :
        Except FormFault Parsed :=
      match last with
      | some e => branch dialect fuel depth groups done (some (.repeated e least most)) false rest
      | none =>
        if dialect.extended && dialect.lenient then
          branch dialect fuel depth groups done none start rest
        else if dialect.extended then throw .nothingToRepeat
        else literal b rest
    match ← signOf dialect s with
    | none => return ⟨all, s, groups⟩
    | some (.bar, _) => return ⟨all, s, groups⟩
    | some (.closing, rest) =>
      if depth > 0 then return ⟨all, s, groups⟩
      else if dialect.extended && dialect.lenient then literal 41 rest
      else throw .closedGroup
    | some (.opening, rest) => do
      let number := groups + 1
      let p ← alternatives dialect fuel (depth + 1) number rest
      match ← signOf dialect p.rest with
      | some (.closing, rest) => goOn (.group number p.expr) p.groups rest
      | _ => throw .openGroup
    | some (.star, rest) => repeats 0 none 42 rest
    | some (.plus, rest) => repeats 1 none 43 rest
    | some (.question, rest) => repeats 0 (some 1) 63 rest
    | some (.brace, rest) =>
      match last, bounds dialect.extended rest with
      | none, .ok _ =>
        if !dialect.lenient then throw .nothingToRepeat
        else if dialect.extended then branch dialect fuel depth groups done none start rest
        else literal 123 rest
      | none, .error _ => if dialect.lenient then literal 123 rest else throw .nothingToRepeat
      | some e, .ok (least, most, rest) =>
        branch dialect fuel depth groups done (some (.repeated e least most)) false rest
      | some _, .error fault =>
        if dialect.looseBraces && (fault = .badBrace || fault = .openBrace) then
          literal 123 rest
        else throw (if fault = .badBounds then .badBrace else fault)
    | some (.caret, rest) =>
      if dialect.extended && dialect.lenient then goOn (.anchor .lineStart) groups rest
      else if dialect.extended || start then
        branch dialect fuel depth groups (all.andThen (.anchor .lineStart)) none true rest
      else literal 94 rest
    | some (.dollar, rest) =>
      if dialect.extended || endsBasic rest then
        branch dialect fuel depth groups (all.andThen (.anchor .lineEnd)) none false rest
      else literal 36 rest
    | some (.reference n, rest) =>
      if n > groups then throw .badReference else goOn (.again n) groups rest
    | some (.one (.anchor a), rest) =>
      branch dialect fuel depth groups (all.andThen (.anchor a)) none start rest
    | some (.one e, rest) => goOn e groups rest

end

/-- The expression that octets write. -/
def parse (dialect : Dialect) (s : List UInt8) : Except FormFault Form := do
  let p ← alternatives dialect (8 * s.length + 16) 0 0 s
  match p.rest with
  | [] => return p.expr
  | _ => throw .closedGroup

/-- The signs of an extended expression that repeat although there is nothing in front of them. -/
def idleSigns (dialect : Dialect) : (fuel : Nat) → (start : Bool) → List UInt8 → List String
  | 0, _, _ => []
  | fuel + 1, start, s =>
    let idle (name : String) (rest : List UInt8) : List String :=
      if start then name :: idleSigns dialect fuel true rest else idleSigns dialect fuel false rest
    match signOf dialect s with
    | .error _ | .ok none => []
    | .ok (some (.star, rest)) => idle "*" rest
    | .ok (some (.plus, rest)) => idle "+" rest
    | .ok (some (.question, rest)) => idle "?" rest
    | .ok (some (.brace, rest)) =>
      if (bounds true rest).toOption.isSome then idle "\x7b...\x7d" rest
      else idleSigns dialect fuel false rest
    | .ok (some (sign, rest)) =>
      let start := (sign matches .opening) || (sign matches .bar) ||
        (start && (sign matches .caret))
      idleSigns dialect fuel start rest

/-- The program of the expression that octets write. -/
def compile (dialect : Dialect) (folded : Bool) (s : List UInt8) : Except FormFault Automaton := do
  return .ofForm (← parse dialect s) folded

end Assay.Expression
