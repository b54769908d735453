import Assay.Path
import Assay.Text.Blank

/-!
# Options of the command line

The program is told what to do by the name of a command, behind which stand its options and at most
one path in any order. The value of an option is the next word, or stands behind an equals sign or
directly behind the letter of the option; letters of options without a value can be run together. A
double hyphen ends the options. What cannot be read is a wrong use.
-/

namespace Assay.Cli

/-- The formats of reports. -/
inductive ReportFormat where
  | human
  | json
  | junit
deriving DecidableEq

/-- The format of a name. -/
def ReportFormat.ofName? (name : String) : Option ReportFormat :=
  if name = "human" then some .human
  else if name = "json" then some .json
  else if name = "junit" then some .junit
  else none

/-- What a run is told. -/
structure RunOptions where
  path : Path
  zksolc : Option String := none
  solc : Option String := none
  format : ReportFormat := .human
  filter : Option String := none
  verbose : Bool := false

/-- What the program is told to do. -/
inductive Command where
  | run (options : RunOptions)
  | validate (path : Path)
  | init (path : Path)
  | schema
  | paths (root : Path)
  | version

/-- An option: its name, its letter, and whether it has a value. -/
structure OptionSpec where
  name : String
  letter : Option Char := none
  hasValue : Bool := true

/-- The options of all commands. They change what is logged, and nothing else. -/
def commonOptions : List OptionSpec :=
  [{ name := "log-level" }]

/-- The options of a run. -/
def runOptions : List OptionSpec :=
  [{ name := "zksolc" }, { name := "solc" }, { name := "output", letter := some 'o' },
    { name := "filter", letter := some 'f' },
    { name := "verbose", letter := some 'v', hasValue := false }]

/-- Words taken apart: the options that were given with their values, and the other words. -/
structure Words where
  given : List (String × String) := []
  others : List String := []

namespace Words

/-- The value of an option. -/
def get? (w : Words) (name : String) : Option String :=
  w.given.lookup name

/-- The words with one more option, which must not be given twice. -/
def give (w : Words) (name value : String) : Option Words :=
  if (w.get? name).isSome then none else some { w with given := (name, value) :: w.given }

end Words

/-- What the letters of a word give, and the option that waits for the next word as its value. -/
def readLetters (specs : List OptionSpec) : List Char → Words → Option (Words × Option String)
  | [], w => some (w, none)
  | c :: rest, w => do
    let spec ← specs.find? (·.letter = some c)
    if spec.hasValue then
      match rest with
      | [] => return (w, some spec.name)
      | '=' :: value => return (← w.give spec.name (String.ofList value), none)
      | value => return (← w.give spec.name (String.ofList value), none)
    else readLetters specs rest (← w.give spec.name "")

/-- What a word behind a double hyphen gives, and the option that waits for the next word. -/
def readLong (specs : List OptionSpec) (word : List Char) (w : Words) :
    Option (Words × Option String) := do
  let name := String.ofList (word.takeWhile (· ≠ '='))
  let spec ← specs.find? (·.name = name)
  match word.dropWhile (· ≠ '=') with
  | '=' :: value =>
    if spec.hasValue then return (← w.give name (String.ofList value), none) else none
  | _ => if spec.hasValue then return (w, some name) else return (← w.give name "", none)

/-- Whether a word looks like an option and so is no value. -/
def looksLikeOption (word : String) : Bool :=
  match word.toList with
  | '-' :: _ :: _ => true
  | _ => false

/-- Takes words apart. -/
def readWords (specs : List OptionSpec) : List String → Words → Option Words
  | [], w => some w
  | word :: rest, w =>
    match word.toList with
    | ['-', '-'] => some { w with others := w.others ++ rest }
    | '-' :: c :: cs => do
      let (w, pending) ← if c = '-' then readLong specs cs w else readLetters specs (c :: cs) w
      match pending with
      | none => readWords specs rest w
      | some name =>
        match rest with
        | value :: rest =>
          if looksLikeOption value then none else readWords specs rest (← w.give name value)
        | [] => none
    | _ => readWords specs rest { w with others := w.others ++ [word] }

/-- The path among the words: at most one, which is not empty. -/
def Words.path? (w : Words) : Option (Option Path) :=
  match w.others with
  | [] => some none
  | [text] => if text.isEmpty then none else some (some ⟨text⟩)
  | _ => none

/-- Reads what is told to a run. -/
def readRun (w : Words) : Option Command := do
  let path ← (← w.path?)
  let format ← match w.get? "output" with
    | none => some .human
    | some name => ReportFormat.ofName? name
  return .run {
    path
    zksolc := w.get? "zksolc"
    solc := w.get? "solc"
    format
    filter := w.get? "filter"
    verbose := (w.get? "verbose").isSome }

/-- Reads a command of which the name is known. -/
def readCommand (name : String) (words : List String) : Option Command := do
  let specs := if name = "run" then commonOptions ++ runOptions else commonOptions
  let w ← readWords specs words {}
  if name = "run" then readRun w
  else if name = "validate" then return .validate (← (← w.path?))
  else if name = "init" then return .init ((← w.path?).getD ⟨"cases/example.yaml"⟩)
  else if name = "paths" then return .paths ((← w.path?).getD ⟨"."⟩)
  else if name = "schema" && w.others.isEmpty then return .schema
  else none

/-- Reads what the program is told; options of all commands may stand in front of the name. -/
def Command.parse? (level : Bool) : List String → Option Command
  | [] => none
  | "--version" :: _ | "-V" :: _ => some .version
  | "--log-level" :: value :: rest =>
    if level || looksLikeOption value then none else Command.parse? true rest
  | word :: rest =>
    match Text.after? "--log-level=".toList word.toList with
    | some _ => if level then none else Command.parse? true rest
    | none => readCommand word rest

end Assay.Cli
