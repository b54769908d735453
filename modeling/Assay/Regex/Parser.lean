import Assay.Regex.Syntax
import Assay.Text.Blank
import Assay.Text.Digit
import Assay.Unicode.Letter

/-!
# Reading regular expressions

The grammar has literals, the dot, bracketed sets with set operations, escapes, anchors, groups with
flags and repetitions. It has neither look-around nor back references, so every expression can be
matched in linear time. What is no expression is refused without a reason.

In verbose mode blanks and comments are skipped, not only between the parts of an expression but
also inside of numbers, of the names of properties and of the names of boundaries.

The reader goes through the text once. Inside a set and inside a group it calls itself with a budget
that the length of the text bounds.
-/

namespace Assay.Regex

/-- The text without blanks and comments in front, where these are to be skipped. -/
def skipVerbose (verbose : Bool) (s : List Char) : List Char :=
  if verbose then go false s else s
where
  /-- Skips on, inside a comment or not. -/
  go (comment : Bool) : List Char → List Char
    | [] => []
    | c :: s =>
      if comment then go (c != '\n') s
      else if c = '#' then go true s
      else if Text.isBlank c then go false s
      else c :: s

/-- The characters in front that have a property, with the text behind them. Between them, and
behind the last, blanks and comments are skipped where these are to be skipped. -/
def takeSpaced (verbose : Bool) (p : Char → Bool) : (fuel : Nat) → List Char →
    List Char × List Char
  | fuel + 1, c :: s =>
    if p c then
      let (cs, rest) := takeSpaced verbose p fuel (skipVerbose verbose s)
      (c :: cs, rest)
    else ([], c :: s)
  | _, s => ([], s)

/-! ## Numbers -/

/-- The value of a hexadecimal digit. -/
def hexValue? (c : Char) : Option Nat :=
  if '0' ≤ c && c ≤ '9' then some (c.toNat - '0'.toNat)
  else if 'a' ≤ c && c ≤ 'f' then some (c.toNat - 'a'.toNat + 10)
  else if 'A' ≤ c && c ≤ 'F' then some (c.toNat - 'A'.toNat + 10)
  else none

/-- The character with the number that hexadecimal digits write, unless the number is that of a
surrogate or too great. -/
def hexChar? (ds : List Char) : Option Char := do
  let n ← ds.foldlM (fun n c => (hexValue? c).map (n * 16 + ·)) 0
  if ds.isEmpty then none
  else if n < 0xD800 || (0xDFFF < n && n ≤ 0x10FFFF) then some (Char.ofNat n)
  else none

/-- Reads the number of a character: so many digits, or any number of them between braces. -/
def readHex (verbose : Bool) (count : Nat) (s : List Char) : Option (Literal × List Char) := do
  let isDigit (c : Char) : Bool := (hexValue? c).isSome
  match skipVerbose verbose s with
  | '\x7b' :: s =>
    let (ds, rest) := takeSpaced verbose isDigit s.length (skipVerbose verbose s)
    match rest with
    | '\x7d' :: rest => return ({ char := ← hexChar? ds }, rest)
    | _ => none
  | s =>
    let (ds, rest) := takeSpaced verbose isDigit count s
    if ds.length < count then none
    else return ({ char := ← hexChar? ds, octet := count = 2 }, rest)

/-- Reads a decimal number of 32 bits with blanks around it. -/
def readDecimal (verbose : Bool) (s : List Char) : Option (Nat × List Char) :=
  let s := s.dropWhile Text.isBlank
  let (ds, rest) := takeSpaced verbose Text.isAsciiDigit s.length s
  let n := Text.digitsValue ds
  if ds.isEmpty || n ≥ Nat.pow 2 32 then none
  else some (n, skipVerbose verbose (rest.dropWhile Text.isBlank))

/-! ## Escapes -/

/-- The place of the first of two characters that stand side by side. -/
def findPair (a b : Char) : List Char → Option Nat
  | c :: d :: s => if c = a && d = b then some 0 else (findPair a b (d :: s)).map (· + 1)
  | _ => none

/-- What the name of a property stands for, and whether the other characters are meant. -/
def propertyName (name : List Char) : PropertyName × Bool :=
  match findPair '!' '=' name with
  | some i => (.valued (name.take i) (name.drop (i + 2)), true)
  | none =>
    match name.findIdx? (· = ':') <|> name.findIdx? (· = '=') with
    | some i => (.valued (name.take i) (name.drop (i + 1)), false)
    | none => (.single name, false)

/-- Reads the name of a property: a letter, or any text between braces. -/
def readProperty (verbose : Bool) (s : List Char) :
    Option ((PropertyName × Bool) × List Char) :=
  match skipVerbose verbose s with
  | '\x7b' :: s =>
    let (name, rest) := takeSpaced verbose (· ≠ '\x7d') s.length (skipVerbose verbose s)
    match rest with
    | '\x7d' :: rest => some (propertyName name, rest)
    | _ => none
  | '\\' :: _ => none
  | c :: s => some ((.single [c], false), skipVerbose verbose s)
  | [] => none

/-- Reads a special word boundary behind `\b`: none if none begins here, and a failure for one that
has no such name. -/
def readBoundary (verbose : Bool) (s : List Char) : Option (Option Mark × List Char) :=
  let isNameChar (c : Char) : Bool := ('A' ≤ c && c ≤ 'Z') || ('a' ≤ c && c ≤ 'z') || c == '-'
  match s with
  | '\x7b' :: inner =>
    match skipVerbose verbose inner with
    | [] => none
    | c :: behind =>
      if !isNameChar c then some (none, s)
      else
        let (name, rest) := takeSpaced verbose isNameChar s.length (c :: behind)
        match rest, String.ofList name with
        | '\x7d' :: rest, "start" => some (some .wordStart, rest)
        | '\x7d' :: rest, "end" => some (some .wordEnd, rest)
        | '\x7d' :: rest, "start-half" => some (some .wordStartHalf, rest)
        | '\x7d' :: rest, "end-half" => some (some .wordEndHalf, rest)
        | _, _ => none
  | s => some (none, s)

/-- Whether a backslash may stand in front of a character to no effect. -/
def isEscapable (c : Char) : Bool :=
  c.toNat < 0x80 && !c.isAlphanum && c != '<' && c != '>'

/-- One thing that stands in an expression or in a set. -/
inductive Piece where
  | literal (l : Literal)
  | property (name : PropertyName) (negated : Bool)
  | ofClass (c : Class) (negated : Bool)
  | mark (m : Mark)

/-- The piece as an expression. -/
def Piece.toSyntax : Piece → Syntax
  | .literal l => .literal l
  | .property name negated => .property name negated
  | .ofClass c negated => .ofClass c negated
  | .mark m => .mark m

/-- The piece as an item of a set; a position is none. -/
def Piece.toItem? : Piece → Option SetSyntax
  | .literal l => some (.literal l)
  | .property name negated => some (.property name negated)
  | .ofClass c negated => some (.ofClass c negated)
  | .mark _ => none

/-- The piece that a letter behind a backslash stands for. -/
def letterEscape? (c : Char) : Option Piece :=
  match c with
  | 'd' => some (.ofClass .digit false)
  | 'D' => some (.ofClass .digit true)
  | 's' => some (.ofClass .blank false)
  | 'S' => some (.ofClass .blank true)
  | 'w' => some (.ofClass .word false)
  | 'W' => some (.ofClass .word true)
  | 'a' => some (.literal ⟨'\x07', false⟩)
  | 'f' => some (.literal ⟨'\x0c', false⟩)
  | 't' => some (.literal ⟨'\t', false⟩)
  | 'n' => some (.literal ⟨'\n', false⟩)
  | 'r' => some (.literal ⟨'\r', false⟩)
  | 'v' => some (.literal ⟨'\x0b', false⟩)
  | 'A' => some (.mark .textStart)
  | 'z' => some (.mark .textEnd)
  | 'B' => some (.mark .noWordBoundary)
  | '<' => some (.mark .wordStart)
  | '>' => some (.mark .wordEnd)
  | c => if isEscapable c then some (.literal ⟨c, false⟩) else none

/-- Reads what follows a backslash. -/
def readEscape (verbose : Bool) : List Char → Option (Piece × List Char)
  | [] => none
  | c :: s =>
    let property (negated : Bool) : Option (Piece × List Char) :=
      (readProperty verbose s).map fun ((name, other), rest) =>
        (.property name (negated != other), rest)
    let number (count : Nat) : Option (Piece × List Char) :=
      (readHex verbose count s).map fun (l, rest) => (.literal l, skipVerbose verbose rest)
    match c with
    | 'x' => number 2
    | 'u' => number 4
    | 'U' => number 8
    | 'p' => property false
    | 'P' => property true
    | 'b' =>
      (readBoundary verbose s).map fun (special, rest) =>
        (.mark (special.getD .wordBoundary), rest)
    | c => (letterEscape? c).map (·, s)

/-! ## Bracketed sets -/

/-- The operation that a text begins with. -/
def readSetOp : List Char → Option (SetOp × List Char)
  | '&' :: '&' :: s => some (.inter, s)
  | '-' :: '-' :: s => some (.diff, s)
  | '~' :: '~' :: s => some (.symmetric, s)
  | _ => none

/-- The bracketed names of sets of ASCII characters. -/
def posixNames : List String :=
  ["alnum", "alpha", "ascii", "blank", "cntrl", "digit", "graph", "lower", "print", "punct",
    "space", "upper", "word", "xdigit"]

/-- Reads a bracketed name such as `[:alpha:]` behind its opening bracket. -/
def readPosix (s : List Char) : Option (SetSyntax × List Char) :=
  match s with
  | ':' :: s =>
    let (negated, s) := match s with
      | '^' :: s => (true, s)
      | s => (false, s)
    let name := s.takeWhile (· ≠ ':')
    match s.drop name.length with
    | ':' :: ']' :: rest =>
      let name := String.ofList name
      if posixNames.contains name then some (.posix name negated, rest) else none
    | _ => none
  | _ => none

/-- Reads one item of a set: a character or a class. -/
def readItem (verbose : Bool) : List Char → Option (Piece × List Char)
  | '\\' :: s => readEscape verbose s
  | c :: s => some (.literal ⟨c, false⟩, s)
  | [] => none

/-- The character behind a hyphen that decides whether the hyphen stands for an interval: the first
one that is no blank. In a comment it is the first of the comment that is no blank. -/
def decisive? (verbose : Bool) (s : List Char) : Option Char :=
  if !verbose then s.head?
  else
    match s.dropWhile Text.isBlank with
    | '#' :: comment => (comment.dropWhile Text.isBlank).head? <|> s.head?
    | c :: _ => some c
    | [] => s.head?

/-- Reads an item or an interval of characters. -/
def readRange (verbose : Bool) (s : List Char) : Option (SetSyntax × List Char) := do
  let (first, s) ← readItem verbose s
  match skipVerbose verbose s with
  | [] => none
  | '-' :: behind =>
    let next := decisive? verbose behind
    if next = some ']' || next = some '-' then return (← first.toItem?, '-' :: behind)
    else
      let (last, s) ← readItem verbose (skipVerbose verbose behind)
      match first, last with
      | .literal a, .literal b => if a.char ≤ b.char then return (.range a b, s) else none
      | _, _ => none
  | s => return (← first.toItem?, s)

/-- Reads what stands first in a set: the sign of negation, and the hyphens or the closing bracket
that are literal there. At least one more character must follow. -/
def readLeading (verbose : Bool) (s : List Char) : Option (Bool × List SetSyntax × List Char) :=
  let s := skipVerbose verbose s
  let (negated, s) := match s with
    | '^' :: t => (true, skipVerbose verbose t)
    | t => (false, t)
  let (hyphens, s) := takeSpaced verbose (· = '-') s.length s
  let (leading, s) := match hyphens, s with
    | [], ']' :: t => ([']'], skipVerbose verbose t)
    | hyphens, s => (hyphens, s)
  let items := leading.map fun c => SetSyntax.literal ⟨c, false⟩
  if s.isEmpty then none else some (negated, items, s)

/-- What has been read of a set: the operand and the operation waiting for the next one, and the
items of the current operand in reverse. -/
structure SetState where
  waiting : Option (SetSyntax × SetOp) := none
  items : List SetSyntax := []

/-- The set so far, with the waiting operation done. -/
def SetState.value (st : SetState) : SetSyntax :=
  let operand := SetSyntax.ofItems st.items.reverse
  match st.waiting with
  | none => operand
  | some (left, op) => .op op left operand

/-- Reads the items of a set up to its closing bracket. -/
def readSet (verbose : Bool) : (fuel : Nat) → SetState → List Char →
    Option (SetSyntax × List Char)
  | 0, _, _ => none
  | fuel + 1, st, s =>
    let push (i : SetSyntax) : SetState := { st with items := i :: st.items }
    let s := skipVerbose verbose s
    match readSetOp s with
    | some (op, rest) => readSet verbose fuel { waiting := some (st.value, op) } rest
    | none =>
      match s with
      | [] => none
      | ']' :: rest => some (st.value, rest)
      | '[' :: rest =>
        match readPosix rest with
        | some (i, rest) => readSet verbose fuel (push i) rest
        | none =>
          match readLeading verbose rest with
          | none => none
          | some (negated, leading, inner) =>
            match readSet verbose fuel { items := leading.reverse } inner with
            | none => none
            | some (set, rest) => readSet verbose fuel (push (.bracketed negated set)) rest
      | s =>
        match readRange verbose s with
        | none => none
        | some (i, rest) => readSet verbose fuel (push i) rest

/-- Reads a set behind its opening bracket. -/
def readBracketed (verbose : Bool) (s : List Char) : Option (Syntax × List Char) := do
  let (negated, leading, inner) ← readLeading verbose s
  let (set, rest) ← readSet verbose (2 * s.length + 2) { items := leading.reverse } inner
  return (.bracketed negated set, rest)

/-! ## Groups, flags and repetitions -/

/-- The flag that a letter stands for. -/
def flag? (c : Char) : Option Flag :=
  match c with
  | 'i' => some .ignoreCase
  | 'm' => some .multiLine
  | 's' => some .dotAll
  | 'U' => some .swapGreed
  | 'u' => some .unicode
  | 'R' => some .crlf
  | 'x' => some .verbose
  | _ => none

/-- Reads flags up to a colon or a closing parenthesis, which is left. Each letter may come once,
and behind the hyphen at least one must follow. -/
def readFlags (changes : List (Flag × Bool)) (off dangling : Bool) : List Char →
    Option (List (Flag × Bool) × List Char)
  | [] => none
  | c :: s =>
    if c = ':' || c = ')' then if dangling then none else some (changes.reverse, c :: s)
    else if c = '-' then if off then none else readFlags changes true true s
    else match flag? c with
      | none => none
      | some f =>
        if changes.any (·.1 = f) then none else readFlags ((f, !off) :: changes) off false s

/-- Whether the name of a group may begin with a character. -/
def startsName (c : Char) : Bool :=
  c = '_' || Unicode.isAlphabetic c

/-- Whether the name of a group may go on with a character. -/
def continuesName (c : Char) : Bool :=
  c = '_' || c = '.' || c = '[' || c = ']' || Unicode.isAlphanumeric c

/-- Reads a group's name up to its closing angle bracket. -/
def readGroupName (s : List Char) : Option (String × List Char) :=
  let name := s.takeWhile (· ≠ '>')
  match name, s.drop name.length with
  | first :: more, '>' :: rest =>
    if startsName first && more.all continuesName then some (String.ofList name, rest) else none
  | _, _ => none

/-- What an opening parenthesis opens. -/
inductive Opening where
  /-- A group that is remembered, perhaps by a name. -/
  | capture (name : Option String)
  /-- A group with flags. -/
  | group (changes : List (Flag × Bool))
  /-- A change of the flags up to the end of the group around it. -/
  | flags (changes : List (Flag × Bool))

/-- Reads what follows an opening parenthesis. -/
def readOpening (verbose : Bool) (s : List Char) : Option (Opening × List Char) :=
  match skipVerbose verbose s with
  | '?' :: '=' :: _ | '?' :: '!' :: _ | '?' :: '<' :: '=' :: _ | '?' :: '<' :: '!' :: _ => none
  | '?' :: 'P' :: '<' :: s | '?' :: '<' :: s =>
    (readGroupName s).map fun (name, rest) => (.capture (some name), rest)
  | '?' :: s =>
    match readFlags [] false false s with
    | some (changes, ':' :: rest) => some (.group changes, rest)
    | some (changes, ')' :: rest) => if changes.isEmpty then none else some (.flags changes, rest)
    | _ => none
  | s => some (.capture none, s)

/-- Reads the bounds of a repetition behind the opening brace. -/
def readBounds (verbose : Bool) (s : List Char) : Option ((Nat × Option Nat) × List Char) := do
  let (least, s) ← readDecimal verbose (skipVerbose verbose s)
  match s with
  | '\x7d' :: rest => some ((least, some least), rest)
  | ',' :: s =>
    match skipVerbose verbose s with
    | '\x7d' :: rest => some ((least, none), rest)
    | s => do
      let (most, s) ← readDecimal verbose s
      match s with
      | '\x7d' :: rest => if least ≤ most then some ((least, some most), rest) else none
      | _ => none
  | _ => none

/-- Where a group is being read: whether blanks are skipped, the names of all groups so far and how
many are remembered, the finished alternatives, and the parts of the current one, both in reverse.
-/
structure Reading where
  verbose : Bool := false
  names : List String := []
  captures : Nat := 0
  alternatives : List Syntax := []
  parts : List Syntax := []

namespace Reading

/-- The reading with one more part. -/
def push (r : Reading) (s : Syntax) : Reading :=
  { r with parts := s :: r.parts }

/-- The reading with its current alternative finished. -/
def close (r : Reading) : Reading :=
  { r with alternatives := .seqs r.parts.reverse :: r.alternatives, parts := [] }

/-- What was read. -/
def finish (r : Reading) : Syntax :=
  .alts r.close.alternatives.reverse

/-- The reading with its last part repeated; refused if there is nothing to repeat. -/
def repeatLast (r : Reading) (least : Nat) (most : Option Nat) (greedy : Bool) : Option Reading :=
  match r.parts with
  | s :: rest =>
    if s.isRepeatable then some { r with parts := .rep s least most greedy :: rest } else none
  | [] => none

/-- The reading at the beginning of a group inside. -/
def enter (r : Reading) (changes : List (Flag × Bool)) : Reading :=
  { verbose := (changes.lookup .verbose).getD r.verbose, names := r.names, captures := r.captures }

/-- The reading behind a group, from the reading at the group's end. -/
def leave (r inner : Reading) (s : Syntax) : Reading :=
  { r with names := inner.names, captures := inner.captures, parts := s :: r.parts }

end Reading

/-- Reads the question mark that makes a repetition prefer fewer rounds. -/
def readLazy : List Char → Bool × List Char
  | '?' :: s => (false, s)
  | s => (true, s)

/-- Reads a group up to its closing parenthesis, or the whole text if `inside` is false. -/
def readGroup (inside : Bool) : (fuel : Nat) → Reading → List Char → Option (Reading × List Char)
  | 0, _, _ => none
  | fuel + 1, r, s =>
    let v := r.verbose
    let again (r : Option Reading) (s : List Char) :=
      match r with
      | some r => readGroup inside fuel r s
      | none => none
    match skipVerbose v s with
    | [] => if inside then none else some (r, [])
    | ')' :: s => if inside then some (r, s) else none
    | '|' :: s => again (some r.close) s
    | '(' :: s =>
      match readOpening v s with
      | none => none
      | some (.flags changes, s) =>
        again (some { r.push (.flags changes) with
          verbose := (changes.lookup .verbose).getD r.verbose }) s
      | some (.group changes, s) =>
        match readGroup true fuel (r.enter changes) s with
        | none => none
        | some (inner, s) => again (some (r.leave inner (.group changes inner.finish))) s
      | some (.capture name, s) =>
        if name.any r.names.contains then none
        else
          let number := r.captures + 1
          let outer := { r with names := name.toList ++ r.names, captures := number }
          match readGroup true fuel (outer.enter []) s with
          | none => none
          | some (inner, s) => again (some (r.leave inner (.capture number inner.finish))) s
    | '*' :: s =>
      let (greedy, s) := readLazy s
      again (r.repeatLast 0 none greedy) s
    | '+' :: s =>
      let (greedy, s) := readLazy s
      again (r.repeatLast 1 none greedy) s
    | '?' :: s =>
      let (greedy, s) := readLazy s
      again (r.repeatLast 0 (some 1) greedy) s
    | '\x7b' :: s =>
      match readBounds v s with
      | none => none
      | some ((least, most), s) =>
        let (greedy, s) := readLazy (skipVerbose v s)
        again (r.repeatLast least most greedy) s
    | '[' :: s =>
      match readBracketed v s with
      | none => none
      | some (set, s) => again (some (r.push set)) s
    | '.' :: s => again (some (r.push .dot)) s
    | '^' :: s => again (some (r.push (.mark .lineStart))) s
    | '$' :: s => again (some (r.push (.mark .lineEnd))) s
    | '\\' :: s =>
      match readEscape v s with
      | none => none
      | some (piece, s) => again (some (r.push piece.toSyntax)) s
    | c :: s => again (some (r.push (.literal ⟨c, false⟩))) s

/-- The regular expression that a text writes; none if it writes none. -/
def Syntax.parse? (s : String) : Option Syntax :=
  match readGroup false (s.length + 1) {} s.toList with
  | some (r, _) => if r.finish.depth ≤ nestLimit then some r.finish else none
  | none => none

end Assay.Regex
