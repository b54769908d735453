import Assay.Semver.Version
import Assay.Text.Blank
import Assay.Text.Digit

/-!
# Versions in banners

A compiler announces its version somewhere in a text of its own. The version found there is the
leftmost `MAJOR.MINOR.PATCH`: a run of decimal digits, a dot, a run of decimal digits, a dot, and a
run of decimal digits, each run as long as it can be. If one of the three is not written in ASCII
digits or does not fit in 64 bits, no version is found at all.

A version given by hand is stricter: it is a semantic version and nothing else, apart from blanks
around it and any number of letters `v` in front.
-/

namespace Assay.Banner

/-- The digits in front of a text and the text behind them, if there are any. -/
def readRun (s : List Char) : Option (List Char × List Char) :=
  match s.takeWhile Text.isDigit with
  | [] => none
  | run => some (run, s.dropWhile Text.isDigit)

/-- The digits in front of a text that a dot follows, and the text behind the dot. -/
def readRunDot (s : List Char) : Option (List Char × List Char) := do
  let (run, rest) ← readRun s
  match rest with
  | '.' :: rest => some (run, rest)
  | _ => none

/-- Three runs of digits between two dots at the front of a text. -/
def readTriple (s : List Char) : Option (List Char × List Char × List Char) := do
  let (major, s) ← readRunDot s
  let (minor, s) ← readRunDot s
  let (patch, _) ← readRun s
  return (major, minor, patch)

/-- The leftmost three runs of digits between two dots. -/
def findTriple : List Char → Option (List Char × List Char × List Char)
  | [] => none
  | c :: s => readTriple (c :: s) <|> findTriple s

/-- The version that a banner announces. -/
def find (banner : String) : Option Semver.Version := do
  let (major, minor, patch) ← findTriple banner.toList
  return { major := ← Text.word? major, minor := ← Text.word? minor, patch := ← Text.word? patch }

/-- Reads a version that was given by hand. -/
def parseConfigured (value : String) : Except Semver.Fault Semver.Version :=
  Semver.Version.parse ((Text.trim value.toList).dropWhile (· = 'v'))

/-- Why a version that was given by hand is none, in words. -/
def configuredMessage (value : String) (fault : Semver.Fault) : String :=
  "invalid configured version '" ++ value ++ "': " ++ fault.message

end Assay.Banner
