/-!
# Options of a shell

What a shell can be told to do differently. An option has a name, and most have a letter too.
-/

namespace Assay.Shell

/-- An option. -/
inductive ShellOption where
  /-- A command that fails ends the shell. -/
  | errexit
  /-- Patterns are not matched against the names of files. -/
  | noglob
  | ignoreeof
  | interactive
  | monitor
  /-- Commands are read and not run. -/
  | noexec
  | stdin
  /-- Commands are shown before they run. -/
  | xtrace
  /-- Lines are shown when they are read. -/
  | verbose
  | vi
  | emacs
  /-- Files that are there are not written over. -/
  | noclobber
  /-- All variables are passed on. -/
  | allexport
  | notify
  /-- A parameter without a value is a fault. -/
  | nounset
  | privileged
  | nolog
  | debug
deriving DecidableEq

namespace ShellOption

/-- All options. -/
def all : List ShellOption :=
  [.errexit, .noglob, .ignoreeof, .interactive, .monitor, .noexec, .stdin, .xtrace, .verbose, .vi,
    .emacs, .noclobber, .allexport, .notify, .nounset, .privileged, .nolog, .debug]

/-- The name of an option. -/
def name : ShellOption → String
  | errexit => "errexit"
  | noglob => "noglob"
  | ignoreeof => "ignoreeof"
  | interactive => "interactive"
  | monitor => "monitor"
  | noexec => "noexec"
  | stdin => "stdin"
  | xtrace => "xtrace"
  | verbose => "verbose"
  | vi => "vi"
  | emacs => "emacs"
  | noclobber => "noclobber"
  | allexport => "allexport"
  | notify => "notify"
  | nounset => "nounset"
  | privileged => "privileged"
  | nolog => "nolog"
  | debug => "debug"

/-- The letter of an option. -/
def letter? : ShellOption → Option Char
  | errexit => some 'e'
  | noglob => some 'f'
  | ignoreeof => some 'I'
  | interactive => some 'i'
  | monitor => some 'm'
  | noexec => some 'n'
  | stdin => some 's'
  | xtrace => some 'x'
  | verbose => some 'v'
  | vi => some 'V'
  | emacs => some 'E'
  | noclobber => some 'C'
  | allexport => some 'a'
  | notify => some 'b'
  | nounset => some 'u'
  | privileged => some 'p'
  | nolog | debug => none

/-- The option of a letter. -/
def ofLetter? (c : Char) : Option ShellOption :=
  all.find? fun o => o.letter? = some c

/-- The option of a name. -/
def ofName? (s : String) : Option ShellOption :=
  all.find? fun o => o.name = s

end ShellOption

/-- The options that are on. -/
abbrev Settings := List ShellOption

/-- Turns an option on or off. -/
def Settings.set (os : Settings) (o : ShellOption) (on : Bool) : Settings :=
  let os := os.filter (· ≠ o)
  if on then o :: os else os

/-- The letters of the options that are on. -/
def Settings.letters (os : Settings) : String :=
  String.ofList ((ShellOption.all.reverse.filter os.contains).filterMap ShellOption.letter?)

/-- A line for each option that tells whether it is on. -/
def Settings.table (os : Settings) : List String :=
  ShellOption.all.map fun o =>
    let gap := String.ofList (List.replicate (16 - o.name.length) ' ')
    o.name ++ gap ++ if os.contains o then "on" else "off"

/-- A command for each option that makes it what it is. -/
def Settings.commands (os : Settings) : List String :=
  ShellOption.all.map fun o => "set " ++ (if os.contains o then "-o " else "+o ") ++ o.name

/-- What arguments with options say: the options, and the arguments behind them if there are any or
if a mark says that they are to be replaced. -/
structure OptionChange where
  options : Settings
  args : Option (List String)
  /-- The lines that are to be printed. -/
  listing : List String := []

/-- Follows the letters of an argument, of which one takes the next argument; an error names an
option that there is not. -/
def followLetters (on : Bool) :
    List Char → (c : OptionChange) → (next : List String) →
      Except String (OptionChange × List String)
  | [], c, next => .ok (c, next)
  | 'o' :: letters, c, next =>
    match next with
    | [] =>
      let lines := if on then "Current option settings" :: c.options.table else c.options.commands
      followLetters on letters { c with listing := c.listing ++ lines } []
    | name :: rest =>
      match ShellOption.ofName? name with
      | some o => followLetters on letters { c with options := c.options.set o on } rest
      | none => .error ("Illegal option -o " ++ name)
  | l :: letters, c, next =>
    match ShellOption.ofLetter? l with
    | some o => followLetters on letters { c with options := c.options.set o on } next
    | none => .error ("Illegal option -" ++ String.singleton l)

/-- Follows arguments with options; `fuel` bounds their number. -/
def followOptions : (fuel : Nat) → (c : OptionChange) → List String → Except String OptionChange
  | 0, c, _ => .ok c
  | _ + 1, c, [] => .ok c
  | fuel + 1, c, arg :: rest =>
    let remaining (args : List String) : Option (List String) :=
      if args.isEmpty then none else some args
    if arg = "--" then .ok { c with args := some rest }
    else if arg = "-" then
      let options := (c.options.set .xtrace false).set .verbose false
      .ok { c with options, args := remaining rest }
    else
      match arg.toList with
      | '-' :: letters => do
        let (c, rest) ← followLetters true letters c rest
        followOptions fuel c rest
      | '+' :: letters => do
        let (c, rest) ← followLetters false letters c rest
        followOptions fuel c rest
      | _ => .ok { c with args := some (arg :: rest) }

/-- What arguments with options say about options that are on. -/
def optionChange (options : Settings) (args : List String) : Except String OptionChange :=
  followOptions (args.length + 1) { options, args := none } args

/-- Where a shell takes its script from. -/
inductive ScriptSource where
  | input
  /-- The first argument. -/
  | text
  /-- The file that the first argument names. -/
  | file
deriving DecidableEq

/-- How a shell is called. -/
structure CommandLine extends OptionChange where
  source : ScriptSource

/-- Follows the options in front of the arguments of a shell; `text` says whether one of them makes
the first argument the script, and `fuel` bounds their number. -/
def followCommandLine :
    (fuel : Nat) → (text : Bool) → OptionChange → List String → Except String CommandLine
  | fuel + 1, text, c, arg :: rest =>
    let follow (on : Bool) (letters : List Char) : Except String CommandLine := do
      let text := text || letters.contains 'c'
      let letters := letters.filter fun l => l ≠ 'c' && l ≠ 'l'
      let (c, rest) ← followLetters on letters c rest
      followCommandLine fuel text c rest
    match arg.toList with
    | ['-'] | ['-', '-'] => finish text c rest
    | '-' :: letters => follow true letters
    | '+' :: letters => follow false letters
    | _ => finish text c (arg :: rest)
  | _, text, c, args => finish text c args
where
  /-- A call with arguments behind its options. -/
  finish (text : Bool) (c : OptionChange) (args : List String) : Except String CommandLine :=
    let source : ScriptSource :=
      if text then .text
      else if args.isEmpty || c.options.contains .stdin then .input
      else .file
    .ok { c with args := some args, source }

/-- How a shell is called by its arguments. -/
def commandLine (args : List String) : Except String CommandLine :=
  followCommandLine (args.length + 1) false { options := [], args := none } args

end Assay.Shell
