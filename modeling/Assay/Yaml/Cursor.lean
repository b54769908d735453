/-!
# Where a reader of YAML stands

A cursor is the text to come with the line and the column of its first character and the number of
octets in front of it. A line break may be a carriage return, a line feed, both, or one of the three
Unicode separators; the first four are read as a line feed.
-/

namespace Assay.Yaml

/-- A position in a text. -/
structure Cursor where
  rest : List Char
  line : Nat := 0
  column : Nat := 0
  octets : Nat := 0

/-- A line break in front of a text: the character it is read as, the number of characters it takes,
and the text behind it. -/
def readBreak? : List Char → Option (Char × Nat × List Char)
  | '\r' :: '\n' :: s => some ('\n', 2, s)
  | '\r' :: s => some ('\n', 1, s)
  | '\n' :: s => some ('\n', 1, s)
  | '\x85' :: s => some ('\n', 1, s)
  | '\u2028' :: s => some ('\u2028', 1, s)
  | '\u2029' :: s => some ('\u2029', 1, s)
  | _ => none

/-- Whether a character breaks a line. -/
def isBreak (c : Char) : Bool :=
  c == '\r' || c == '\n' || c == '\x85' || c == '\u2028' || c == '\u2029'

/-- Whether a character is a blank or a tab. -/
def isBlank (c : Char) : Bool :=
  c == ' ' || c == '\t'

/-- Whether a text is at its end, or a blank or a line break stands in front. -/
def endsWord : List Char → Bool
  | [] => true
  | c :: _ => isBlank c || isBreak c

/-- Whether a text is at its end or a line break stands in front. -/
def endsLine : List Char → Bool
  | [] => true
  | c :: _ => isBreak c

/-- How many octets so many characters in front of a text take. -/
def octetsOf : Nat → List Char → Nat
  | n + 1, c :: s => c.utf8Size + octetsOf n s
  | _, _ => 0

namespace Cursor

/-- The cursor behind the next `n` characters, none of which breaks the line. -/
def skip (c : Cursor) (n : Nat) : Cursor :=
  { c with
    rest := c.rest.drop n
    column := c.column + n
    octets := c.octets + octetsOf n c.rest }

/-- The cursor behind the characters in front that have a property, none of which breaks the line,
and these characters. -/
def takeWhile (c : Cursor) (p : Char → Bool) : List Char × Cursor :=
  let taken := c.rest.takeWhile p
  (taken, c.skip taken.length)

/-- The cursor behind a line break, and the character it is read as. -/
def readBreak? (c : Cursor) : Option (Char × Cursor) :=
  (Yaml.readBreak? c.rest).map fun (b, n, rest) =>
    (b, { rest, line := c.line + 1, column := 0, octets := c.octets + octetsOf n c.rest })

/-- The cursor behind a line break, if there is one. -/
def skipBreak (c : Cursor) : Cursor :=
  match c.readBreak? with
  | some (_, c) => c
  | none => c

/-- Whether a line begins with three given characters and a blank, a break or the end behind them.
-/
def atMarker (c : Cursor) (mark : Char) : Bool :=
  c.column = 0 &&
    match c.rest with
    | a :: b :: d :: s => a = mark && b = mark && d = mark && endsWord s
    | _ => false

/-- Whether a line begins a document or ends one. -/
def atDocumentMarker (c : Cursor) : Bool :=
  c.atMarker '-' || c.atMarker '.'

/-- The cursor behind blanks and a comment. -/
def skipComment (c : Cursor) : Cursor :=
  let (_, c) := c.takeWhile isBlank
  match c.rest with
  | '#' :: _ => (c.takeWhile fun d => !isBreak d).2
  | _ => c

end Cursor

end Assay.Yaml
