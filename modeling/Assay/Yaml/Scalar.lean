import Assay.Datum
import Assay.Yaml.Cursor
import Assay.Yaml.Fault

/-!
# Scalars of YAML

How the text of a scalar is read. Quoted and unquoted scalars fold lines: blanks around a line break
vanish, a single break becomes a blank, and of several the first vanishes. Scalars behind a bar or
an angle bracket take their lines from the indentation on; the header says how many breaks are kept
at the end. Every reader ends behind the scalar, or tells what is malformed.
-/

namespace Assay.Yaml

/-- What has been read of a scalar whose lines are folded: its text in reverse, the blanks behind
it, and if lines were broken the first break and the others in reverse. -/
structure Folded where
  text : List Char := []
  blanks : List Char := []
  firstBreak : Option Char := none
  moreBreaks : List Char := []
  /-- Whether a line has been broken since the last character. -/
  broken : Bool := false

namespace Folded

/-- The text with the blanks or breaks behind it put to it. -/
def flush (f : Folded) : Folded :=
  if f.broken then
    let joined := match f.firstBreak with
      | some '\n' => if f.moreBreaks.isEmpty then [' '] else f.moreBreaks
      | some c => f.moreBreaks ++ [c]
      | none => f.moreBreaks
    { text := joined ++ f.text }
  else { text := f.blanks ++ f.text }

/-- The text with one more character. -/
def push (f : Folded) (c : Char) : Folded :=
  { f.flush with text := c :: f.flush.text }

/-- A blank; at the beginning of a line it vanishes. -/
def blank (f : Folded) (c : Char) : Folded :=
  if f.broken then f else { f with blanks := c :: f.blanks }

/-- A line break. -/
def lineBreak (f : Folded) (c : Char) : Folded :=
  if f.broken then { f with moreBreaks := c :: f.moreBreaks }
  else { f with blanks := [], firstBreak := some c, broken := true }

end Folded

/-- A scalar that was read and the cursor behind it. -/
structure ReadScalar where
  text : String
  cursor : Cursor
  /-- Whether the reader went over a line break behind the scalar. -/
  broken : Bool := false

/-! ## Unquoted scalars -/

/-- The characters that end an unquoted scalar inside brackets. -/
def isFlowMark (c : Char) : Bool :=
  c == ',' || c == '[' || c == ']' || c == '\x7b' || c == '\x7d'

/-- Reads an unquoted scalar on, `indent` being the least column of its further lines outside of
brackets. `fresh` holds in front of the first character of a word, and `started` behind the first
word. -/
def readPlainFrom (flow : Bool) (indent : Int) : (fuel : Nat) → (fresh started : Bool) → Folded →
    Cursor → Except Fault ReadScalar
  | 0, _, _, _, _ => wrong .plainScalar .endOfText
  | fuel + 1, fresh, started, f, c =>
    let done : Except Fault ReadScalar := .ok ⟨String.ofList f.text.reverse, c, f.broken⟩
    match c.rest with
    | [] => done
    | d :: s =>
      if isBlank d then
        if f.broken && (c.column : Int) < indent && d = '\t' then
          wrong .plainScalar .tabInIndentation
        else readPlainFrom flow indent fuel true started (f.blank d) (c.skip 1)
      else if isBreak d then
        match c.readBreak? with
        | some (b, c) => readPlainFrom flow indent fuel true started (f.lineBreak b) c
        | none => done
      else if fresh && started && !flow && (c.column : Int) < indent then done
      else if fresh && (c.atDocumentMarker || d = '#') then done
      else if flow && d = ':' &&
          (match s with | e :: _ => isFlowMark e || e = '?' | [] => false) then
        wrong .plainScalar .strayColon
      else if d = ':' && endsWord s then done
      else if flow && isFlowMark d then done
      else readPlainFrom flow indent fuel false true (f.push d) (c.skip 1)

/-- Reads an unquoted scalar. -/
def readPlain (flow : Bool) (indent : Int) (c : Cursor) : Except Fault ReadScalar :=
  readPlainFrom flow indent (c.rest.length + 1) true false {} c

/-! ## Quoted scalars -/

/-- What a one-letter escape stands for. -/
def escape? (c : Char) : Option Char :=
  match c with
  | '0' => some '\x00'
  | 'a' => some '\x07'
  | 'b' => some '\x08'
  | 't' | '\t' => some '\t'
  | 'n' => some '\n'
  | 'v' => some '\x0b'
  | 'f' => some '\x0c'
  | 'r' => some '\r'
  | 'e' => some '\x1b'
  | ' ' => some ' '
  | '"' => some '"'
  | '/' => some '/'
  | '\\' => some '\\'
  | 'N' => some '\x85'
  | '_' => some '\xa0'
  | 'L' => some '\u2028'
  | 'P' => some '\u2029'
  | _ => none

/-- The number of digits behind a letter that gives a character by its number. -/
def escapeWidth? (c : Char) : Option Nat :=
  match c with
  | 'x' => some 2
  | 'u' => some 4
  | 'U' => some 8
  | _ => none

/-- The character with a number of so many hexadecimal digits in front of a text. -/
def readNumbered (width : Nat) (s : List Char) : Except Fault Char :=
  let ds := s.take width
  match (if ds.length < width then none else inBase? 16 ds) with
  | none => wrong .quotedEscape .noHexadecimal
  | some n =>
    if (0xD800 ≤ n && n ≤ 0xDFFF) || n > 0x10FFFF then wrong .quotedEscape .noCharacterNumber
    else .ok (Char.ofNat n)

/-- Reads a quoted scalar on up to its closing quote. -/
def readQuotedFrom (single : Bool) : (fuel : Nat) → Folded → Cursor → Except Fault ReadScalar
  | 0, _, _ => wrong .quotedScalar .endOfText
  | fuel + 1, f, c =>
    if c.atDocumentMarker then wrong .quotedScalar .documentMark
    else match c.rest with
    | [] => wrong .quotedScalar .endOfText
    | d :: s =>
      if isBlank d then readQuotedFrom single fuel (f.blank d) (c.skip 1)
      else if isBreak d then
        match c.readBreak? with
        | some (b, c) => readQuotedFrom single fuel (f.lineBreak b) c
        | none => wrong .quotedScalar .endOfText
      else if single then
        match d, s with
        | '\'', '\'' :: _ => readQuotedFrom single fuel (f.push d) (c.skip 2)
        | '\'', _ => .ok ⟨String.ofList f.flush.text.reverse, c.skip 1, false⟩
        | _, _ => readQuotedFrom single fuel (f.push d) (c.skip 1)
      else if d = '"' then .ok ⟨String.ofList f.flush.text.reverse, c.skip 1, false⟩
      else if d = '\\' then
        match s with
        | [] => wrong .quotedEscape .unknownEscape
        | e :: behind =>
          if isBreak e then
            readQuotedFrom single fuel { f.flush with broken := true } (c.skip 1).skipBreak
          else match escape? e, escapeWidth? e with
            | some ch, _ => readQuotedFrom single fuel (f.push ch) (c.skip 2)
            | none, some width =>
              match readNumbered width behind with
              | .ok ch => readQuotedFrom single fuel (f.push ch) (c.skip (2 + width))
              | .error fault => .error fault
            | none, none => wrong .quotedEscape .unknownEscape
      else readQuotedFrom single fuel (f.push d) (c.skip 1)

/-- Reads a quoted scalar from its opening quote on. -/
def readQuoted (single : Bool) (c : Cursor) : Except Fault ReadScalar :=
  readQuotedFrom single (c.rest.length + 1) {} (c.skip 1)

/-! ## Block scalars -/

/-- What becomes of the line breaks at the end of a block scalar. -/
inductive Chomp where
  | strip | clip | keep
deriving DecidableEq

/-- Reads the sign that says what becomes of the breaks at the end. -/
def readChomp : List Char → Option (Chomp × List Char)
  | '+' :: s => some (.keep, s)
  | '-' :: s => some (.strip, s)
  | _ => none

/-- Reads the digit that gives the indentation; zero is refused. -/
def readIncrement : List Char → Option (Option Nat × List Char)
  | d :: s =>
    if '1' ≤ d && d ≤ '9' then some (some (d.toNat - '0'.toNat), s)
    else if d = '0' then none
    else some (none, d :: s)
  | [] => some (none, [])

/-- Reads the header of a block scalar: its sign and its digit in either order. -/
def readHeader (s : List Char) : Option (Chomp × Option Nat × List Char) :=
  match readChomp s with
  | some (chomp, s) => (readIncrement s).map fun (n, s) => (chomp, n, s)
  | none => do
    let (n, s) ← readIncrement s
    match n, readChomp s with
    | some n, some (chomp, s) => return (chomp, some n, s)
    | n, _ => return (.clip, n, s)

/-- Reads empty lines and the indentation of the next line that is not empty. With `indent` zero the
indentation is not known yet and `deepest` becomes the greatest column met. -/
def readIndentation (indent : Nat) :
    (fuel : Nat) → (deepest : Nat) → (breaks : List Char) → Cursor →
    Except Fault (Nat × List Char × Cursor)
  | 0, deepest, breaks, c => .ok (deepest, breaks, c)
  | fuel + 1, deepest, breaks, c =>
    let spaces := c.rest.takeWhile (· = ' ')
    let c := c.skip (if indent = 0 then spaces.length else min spaces.length (indent - c.column))
    let deepest := max deepest c.column
    if (indent = 0 || c.column < indent) && c.rest.head? = some '\t' then
      wrong .blockScalar .tabInsteadOfIndentation
    else match c.readBreak? with
      | some (b, c) => readIndentation indent fuel deepest (b :: breaks) c
      | none => .ok (deepest, breaks, c)

/-- What has been read of a block scalar: its text, the break behind it, and the breaks behind that,
all in reverse. -/
structure BlockLines where
  text : List Char := []
  leading : Option Char := none
  trailing : List Char := []
  /-- Whether the last line began with a blank, which keeps the break behind it. -/
  afterBlank : Bool := false

/-- Reads the lines of a block scalar that stand at its indentation. -/
def readLines (literal : Bool) (indent : Nat) : (fuel : Nat) → BlockLines → Cursor →
    Except Fault (BlockLines × Cursor)
  | 0, b, c => .ok (b, c)
  | fuel + 1, b, c =>
    if c.column ≠ indent || c.rest.isEmpty then .ok (b, c)
    else
      let startsBlank := match c.rest with
        | d :: _ => isBlank d
        | [] => false
      let joined :=
        if !literal && b.leading = some '\n' && !b.afterBlank && !startsBlank then
          if b.trailing.isEmpty then ' ' :: b.text else b.text
        else b.leading.toList ++ b.text
      let (line, c) := c.takeWhile fun d => !isBreak d
      let text := line.reverse ++ b.trailing ++ joined
      let (leading, c) := match c.readBreak? with
        | some (d, c) => (some d, c)
        | none => (none, c)
      match readIndentation indent (c.rest.length + 1) 0 [] c with
      | .error fault => .error fault
      | .ok (_, trailing, c) =>
        readLines literal indent fuel { text, leading, trailing, afterBlank := startsBlank } c

/-- Reads a block scalar from its bar or angle bracket on; `parent` is the indentation around it. -/
def readBlock (literal : Bool) (parent : Int) (c : Cursor) : Except Fault ReadScalar := do
  let c := c.skip 1
  let some (chomp, increment, s) := readHeader c.rest
    | wrong .blockScalar .zeroIndentation
  let c := (c.skip (c.rest.length - s.length)).skipComment
  if !endsLine c.rest then wrong .blockScalar .noLineEnd
  else
    let c := c.skipBreak
    let given : Nat := match increment with
      | some n => if parent ≥ 0 then parent.toNat + n else n
      | none => 0
    let (deepest, breaks, c) ← readIndentation given (c.rest.length + 1) 0 [] c
    let indent := if given ≠ 0 then given else max (max deepest (parent + 1).toNat) 1
    let (b, c) ← readLines literal indent (c.rest.length + 1) { trailing := breaks } c
    let text := match chomp with
      | .strip => b.text
      | .clip => b.leading.toList ++ b.text
      | .keep => b.trailing ++ b.leading.toList ++ b.text
    return ⟨String.ofList text.reverse, c, false⟩

end Assay.Yaml
