import Assay.Semver.Version
import Assay.Text.Blank

/-!
# Version requirements

A requirement is a list of comparators between commas, all of which must hold. A comparator is an
operator and a version whose minor and patch numbers may be left out or be wildcards; without an
operator it is a caret comparator. A version with a pre-release tag satisfies a requirement only if
some comparator names the same three numbers with a tag of its own.
-/

namespace Assay.Semver

/-- How a comparator compares. -/
inductive Operator where
  | exact | greater | greaterEq | less | lessEq | tilde | caret | wildcard
deriving DecidableEq

/-- One condition on a version. -/
structure Comparator where
  op : Operator
  major : Nat
  minor : Option Nat
  patch : Option Nat
  pre : List Char
deriving DecidableEq

/-- Conditions that must all hold. -/
structure Requirement where
  comparators : List Comparator
deriving DecidableEq

/-- A wildcard in front of a text, and the text behind it. -/
def readWildcard : List Char → Option (Char × List Char)
  | c :: s => if c = '*' || c = 'x' || c = 'X' then some (c, s) else none
  | [] => none

/-- The text without the blanks in front. -/
def skipSpaces (s : List Char) : List Char :=
  s.dropWhile (· = ' ')

/-- The operator in front of a text, if there is one, and the text behind it. -/
def readOperator : List Char → Option Operator × List Char
  | '=' :: s => (some .exact, s)
  | '>' :: '=' :: s => (some .greaterEq, s)
  | '>' :: s => (some .greater, s)
  | '<' :: '=' :: s => (some .lessEq, s)
  | '<' :: s => (some .less, s)
  | '~' :: s => (some .tilde, s)
  | '^' :: s => (some .caret, s)
  | s => (none, s)

/-- A number, a wildcard or nothing in a place of a comparator. -/
inductive Place where
  | missing
  | star
  | number (n : Nat)
deriving DecidableEq

/-- The number in a place, if there is one. -/
def Place.number? : Place → Option Nat
  | .number n => some n
  | _ => none

/-- Reads a place behind its dot; without a dot the place is missing. -/
def readPlace (part : Part) (afterStar : Bool) : List Char → Except Fault (Place × List Char)
  | '.' :: s =>
    match readWildcard s with
    | some (_, rest) => .ok (.star, rest)
    | none =>
      if afterStar then .error .afterWildcard
      else (readNumber part none s).map fun (n, rest) => (.number n, rest)
  | s => .ok (.missing, s)

/-- The part of a comparator that was read last. -/
def lastPart (minor patch : Place) : Part :=
  if patch ≠ .missing then .patch else if minor ≠ .missing then .minor else .major

/-- Reads the tags behind a patch number. Build metadata is read and forgotten. -/
def readTags (patch : Place) (last : Part) (s : List Char) :
    Except Fault (List Char × Part × List Char) := do
  if patch.number?.isNone then return ([], last, s)
  let (pre, last, s) ← Version.readMarked '-' .pre last s
  let (_, last, s) ← Version.readMarked '+' .build last s
  return (pre, last, s)

/-- Reads a comparator and the blanks behind it. -/
def readComparator (s : List Char) : Except Fault (Comparator × Part × List Char) := do
  let (op, s) := readOperator s
  let (major, s) ← readNumber .major none (skipSpaces s)
  let (minor, s) ← readPlace .minor false s
  let (patch, s) ← readPlace .patch (minor = .star) s
  let (pre, last, s) ← readTags patch (lastPart minor patch) s
  let op := op.getD (if minor = .star ∨ patch = .star then .wildcard else .caret)
  let comparator := { op, major, minor := minor.number?, patch := patch.number?, pre }
  return (comparator, last, skipSpaces s)

/-- Whether a wildcard stands alone between commas at the front of a text, and which. -/
def loneWildcard (s : List Char) : Option Char :=
  match readWildcard s with
  | none => none
  | some (c, rest) =>
    match skipSpaces rest with
    | [] | ',' :: _ => some c
    | _ => none

namespace Requirement

/-- The number of comparators a requirement may have. -/
def maxComparators : Nat := 32

/-- Reads at most `room` comparators between commas. -/
def readComparators : (room : Nat) → List Char → Except Fault (List Comparator)
  | 0, _ => .error .tooManyComparators
  | room + 1, s =>
    match readComparator s with
    | .error e => .error (((loneWildcard s).map Fault.wildcardNotAlone).getD e)
    | .ok (c, last, rest) =>
      match rest with
      | [] => .ok [c]
      | ',' :: rest => (readComparators room (skipSpaces rest)).map (c :: ·)
      | d :: _ => .error (.expectedComma last d)

/-- Reads a requirement. A lone wildcard has no conditions. -/
def parse (s : List Char) : Except Fault Requirement :=
  let s := skipSpaces s
  match readWildcard s with
  | some (c, rest) =>
    match skipSpaces rest with
    | [] => .ok ⟨[]⟩
    | ',' :: _ => .error (.wildcardNotAlone c)
    | _ => .error .afterWildcard
  | none => (readComparators maxComparators s).map Requirement.mk

end Requirement

/-- Compares two numeric segments by value: the longer is the greater. -/
def compareNumeric (a b : List Char) : Ordering :=
  (compare a.length b.length).then (compare (String.ofList a) (String.ofList b))

/-- Compares two segments of a pre-release tag: numbers by value and before all others, the others
by their characters. -/
def compareSegment (a b : List Char) : Ordering :=
  match a.all Text.isAsciiDigit, b.all Text.isAsciiDigit with
  | true, true => compareNumeric a b
  | true, false => .lt
  | false, true => .gt
  | false, false => compare (String.ofList a) (String.ofList b)

/-- Compares lists of segments; the longer of two that agree is the greater. -/
def compareSegments : List (List Char) → List (List Char) → Ordering
  | [], [] => .eq
  | [], _ :: _ => .lt
  | _ :: _, [] => .gt
  | a :: as, b :: bs => (compareSegment a b).then (compareSegments as bs)

/-- Compares pre-release tags; no tag is greater than any. -/
def comparePre (a b : List Char) : Ordering :=
  match a, b with
  | [], [] => .eq
  | [], _ => .gt
  | _, [] => .lt
  | a, b => compareSegments (Text.splitAt '.' a) (Text.splitAt '.' b)

namespace Comparator

/-- The version has the numbers that the comparator gives, and its tag. -/
def matchesExact (c : Comparator) (v : Version) : Bool :=
  v.major = c.major && c.minor.all (· = v.minor) && c.patch.all (· = v.patch) && v.pre = c.pre

/-- The version lies on the side `side` of the comparator at the first place where they differ; a
missing place ends the comparison. -/
def beyond (side : Ordering) (c : Comparator) (v : Version) : Bool :=
  if v.major ≠ c.major then compare v.major c.major = side
  else match c.minor with
    | none => false
    | some minor =>
      if v.minor ≠ minor then compare v.minor minor = side
      else match c.patch with
        | none => false
        | some patch =>
          if v.patch ≠ patch then compare v.patch patch = side
          else comparePre v.pre c.pre = side

/-- The version is the comparator's or a later patch of the same minor version. -/
def matchesTilde (c : Comparator) (v : Version) : Bool :=
  if v.major ≠ c.major || !c.minor.all (· = v.minor) then false
  else match c.patch with
    | some patch => if v.patch ≠ patch then v.patch > patch else comparePre v.pre c.pre ≠ .lt
    | none => comparePre v.pre c.pre ≠ .lt

/-- The version is the comparator's or a later one with the same leftmost nonzero number. -/
def matchesCaret (c : Comparator) (v : Version) : Bool :=
  if v.major ≠ c.major then false
  else match c.minor, c.patch with
    | none, _ => true
    | some minor, none => if c.major > 0 then v.minor ≥ minor else v.minor = minor
    | some minor, some patch =>
      if c.major > 0 then
        if v.minor ≠ minor then v.minor > minor
        else if v.patch ≠ patch then v.patch > patch
        else comparePre v.pre c.pre ≠ .lt
      else if minor > 0 then
        if v.minor ≠ minor then false
        else if v.patch ≠ patch then v.patch > patch
        else comparePre v.pre c.pre ≠ .lt
      else if v.minor ≠ minor || v.patch ≠ patch then false
      else comparePre v.pre c.pre ≠ .lt

/-- Whether the version satisfies the comparator, pre-release tags counted as any other part. -/
def admits (c : Comparator) (v : Version) : Bool :=
  match c.op with
  | .exact | .wildcard => c.matchesExact v
  | .greater => c.beyond .gt v
  | .greaterEq => c.matchesExact v || c.beyond .gt v
  | .less => c.beyond .lt v
  | .lessEq => c.matchesExact v || c.beyond .lt v
  | .tilde => c.matchesTilde v
  | .caret => c.matchesCaret v

/-- Whether the comparator names the version's three numbers together with a tag. -/
def namesPre (c : Comparator) (v : Version) : Bool :=
  c.major = v.major && c.minor = some v.minor && c.patch = some v.patch && !c.pre.isEmpty

end Comparator

/-- Whether a version satisfies a requirement. -/
def Requirement.admits (r : Requirement) (v : Version) : Bool :=
  r.comparators.all (·.admits v) && (v.pre.isEmpty || r.comparators.any (·.namesPre v))

end Assay.Semver
