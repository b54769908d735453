import Assay.Text.Digit
import Assay.Text.Quoted

/-!
# Semantic versions

A version is three numbers, and optionally a pre-release tag behind a hyphen and build metadata
behind a plus sign. Reading one is strict: numbers have no leading zero and fit in 64 bits, tags are
dotted segments of letters, digits and hyphens, and nothing may follow. A reader returns what it
read with the text behind it.
-/

namespace Assay.Semver

/-- The part of a version that is being read. -/
inductive Part where
  | major | minor | patch | pre | build
deriving DecidableEq

/-- A part in words. -/
def Part.describe : Part → String
  | .major => "major version number"
  | .minor => "minor version number"
  | .patch => "patch version number"
  | .pre => "pre-release identifier"
  | .build => "build metadata"

/-- Why a text is no version or no requirement. -/
inductive Fault where
  | empty
  | unexpectedEnd (part : Part)
  | unexpectedChar (part : Part) (c : Char)
  | unexpectedCharAfter (part : Part) (c : Char)
  | expectedComma (part : Part) (c : Char)
  | leadingZero (part : Part)
  | overflow (part : Part)
  | emptySegment (part : Part)
  | wildcardNotAlone (c : Char)
  | afterWildcard
  | tooManyComparators
deriving DecidableEq

/-- A fault in words. -/
def Fault.message : Fault → String
  | .empty => "empty string, expected a semver version"
  | .unexpectedEnd p => "unexpected end of input while parsing " ++ p.describe
  | .unexpectedChar p c =>
    "unexpected character " ++ Text.quotedSingle c ++ " while parsing " ++ p.describe
  | .unexpectedCharAfter p c =>
    "unexpected character " ++ Text.quotedSingle c ++ " after " ++ p.describe
  | .expectedComma p c => "expected comma after " ++ p.describe ++ ", found " ++ Text.quotedSingle c
  | .leadingZero p => "invalid leading zero in " ++ p.describe
  | .overflow p => "value of " ++ p.describe ++ " exceeds u64::MAX"
  | .emptySegment p => "empty identifier segment in " ++ p.describe
  | .wildcardNotAlone c =>
    "wildcard req (" ++ String.singleton c ++ ") must be the only comparator in the version req"
  | .afterWildcard => "unexpected character after wildcard in version req"
  | .tooManyComparators => "excessive number of version comparators"

/-- Reads a number: the longest run of digits, refused at the first digit that follows a leading
zero or that takes the number past 64 bits. -/
def readNumber (part : Part) (value : Option Nat) : List Char → Except Fault (Nat × List Char)
  | [] => match value with
    | some n => .ok (n, [])
    | none => .error (.unexpectedEnd part)
  | c :: s =>
    if Text.isAsciiDigit c then
      if value = some 0 then .error (.leadingZero part)
      else
        let next := value.getD 0 * 10 + (c.toNat - '0'.toNat)
        if next ≤ Text.maxWord then readNumber part (some next) s else .error (.overflow part)
    else match value with
      | some n => .ok (n, c :: s)
      | none => .error (.unexpectedChar part c)

/-- Reads the dot behind a part. -/
def readDot (part : Part) : List Char → Except Fault (List Char)
  | '.' :: s => .ok s
  | c :: _ => .error (.unexpectedCharAfter part c)
  | [] => .error (.unexpectedEnd part)

/-- Whether a character may stand in a segment of a tag. -/
def isTagChar (c : Char) : Bool :=
  ('A' ≤ c && c ≤ 'Z') || ('a' ≤ c && c ≤ 'z') || c == '-' || Text.isAsciiDigit c

/-- A numeric segment with a leading zero. -/
def isZeroPadded (segment : List Char) : Bool :=
  segment.length > 1 && segment.all Text.isAsciiDigit && segment.head? == some '0'

/-- Reads a tag: segments between dots, none of them empty, and in a pre-release tag none of them a
number with a leading zero. `done` holds the characters before the current segment and `segment`
those of it, both in reverse. Nothing at all is an empty tag. -/
def readTagFrom (part : Part) (done segment : List Char) :
    List Char → Except Fault (List Char × List Char)
  | [] =>
    if segment.isEmpty then
      if done.isEmpty then .ok ([], []) else .error (.emptySegment part)
    else if part = .pre && isZeroPadded segment.reverse then .error (.leadingZero part)
    else .ok ((segment ++ done).reverse, [])
  | c :: s =>
    if isTagChar c then readTagFrom part done (c :: segment) s
    else if segment.isEmpty then
      if done.isEmpty && c != '.' then .ok ([], c :: s) else .error (.emptySegment part)
    else if part = .pre && isZeroPadded segment.reverse then .error (.leadingZero part)
    else if c = '.' then readTagFrom part ('.' :: segment ++ done) [] s
    else .ok ((segment ++ done).reverse, c :: s)

/-- Reads a tag that must not be empty. -/
def readTag (part : Part) (s : List Char) : Except Fault (List Char × List Char) := do
  let (tag, rest) ← readTagFrom part [] [] s
  if tag.isEmpty then .error (.emptySegment part) else .ok (tag, rest)

/-- A semantic version. -/
structure Version where
  major : Nat
  minor : Nat
  patch : Nat
  pre : List Char := []
  build : List Char := []
deriving DecidableEq

namespace Version

/-- Reads the tag behind `mark`, if that is what comes next. The part read last says where an
unexpected character stands. -/
def readMarked (mark : Char) (part last : Part) :
    List Char → Except Fault (List Char × Part × List Char)
  | c :: s =>
    if c = mark then do
      let (tag, rest) ← readTag part s
      return (tag, part, rest)
    else .ok ([], last, c :: s)
  | [] => .ok ([], last, [])

/-- Reads a text that is a version and nothing else. -/
def parse (s : List Char) : Except Fault Version := do
  if s.isEmpty then throw .empty
  let (major, s) ← readNumber .major none s
  let s ← readDot .major s
  let (minor, s) ← readNumber .minor none s
  let s ← readDot .minor s
  let (patch, s) ← readNumber .patch none s
  let (pre, last, s) ← readMarked '-' .pre .patch s
  let (build, last, s) ← readMarked '+' .build last s
  match s with
  | [] => return { major, minor, patch, pre, build }
  | c :: _ => throw (.unexpectedCharAfter last c)

/-- A version as it is written. -/
def render (v : Version) : String :=
  let core := toString v.major ++ "." ++ toString v.minor ++ "." ++ toString v.patch
  let pre := if v.pre.isEmpty then "" else "-" ++ String.ofList v.pre
  let build := if v.build.isEmpty then "" else "+" ++ String.ofList v.build
  core ++ pre ++ build

end Version

end Assay.Semver
