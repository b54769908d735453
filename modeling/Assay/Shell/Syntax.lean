/-!
# Syntax of the shell

A script is made of commands, and commands of words. A word is made of pieces: text, and what is put
in its place when the command runs. Quoted pieces stay as they are; the others are split at blanks
and matched against the names of files. The texts that commands read from the script itself stand
behind the line of the command; commands refer to them by their numbers.
-/

namespace Assay.Shell

/-- What a parameter without a value gives rise to. -/
inductive Fallback where
  /-- The word in its place. -/
  | use
  /-- The word in its place, which also becomes the value. -/
  | assign
  /-- The word in the place of a value that is there. -/
  | alternative
  /-- A fault with the word as its message. -/
  | complain
deriving DecidableEq

/-- What a redirection does with a stream. -/
inductive Direction where
  | input
  | output
  /-- As `output`, also where files that are there are to be kept. -/
  | overwrite
  | append
  /-- The stream both reads and writes. -/
  | both
  /-- The stream becomes a copy of another one. -/
  | copy
  /-- The stream reads the document of a number. -/
  | document (number : Nat)
deriving DecidableEq

mutual

/-- A part of a word. -/
inductive Piece where
  | text (quoted : Bool) (s : List Char)
  /-- The value of a parameter. -/
  | value (quoted : Bool) (name : String)
  /-- The length of a value. -/
  | length (quoted : Bool) (name : String)
  /-- The value of a parameter, or what is to be done without; `blank` says whether an empty value
  counts as none. -/
  | fallback (quoted : Bool) (name : String) (kind : Fallback) (blank : Bool) (word : List Piece)
  /-- A value without the part at its front or its back that a pattern matches. -/
  | trimmed (quoted : Bool) (name : String) (front longest : Bool) (pattern : List Piece)
  /-- What a script prints. -/
  | output (quoted : Bool) (script : Script)
  /-- The value of an expression. -/
  | number (quoted : Bool) (expression : List Piece)
  /-- What cannot be put in any place. -/
  | bad

/-- A change of a stream. -/
inductive Redirection where
  | mk (stream : Nat) (direction : Direction) (target : List Piece)

/-- Commands, and what they are made of. -/
inductive Script where
  | nothing
  | simple (line : Nat) (assignments : List (String × List Piece)) (words : List (List Piece))
      (redirections : List Redirection)
  /-- Commands of which each reads what the one in front of it prints. -/
  | pipeline (parts : List Script)
  | negated (s : Script)
  | both (a b : Script)
  | either (a b : Script)
  | sequence (a b : Script)
  | background (s : Script)
  /-- A script in a shell of its own. -/
  | apart (s : Script)
  | redirected (s : Script) (redirections : List Redirection)
  | branch (condition yes no : Script)
  /-- A loop that goes on while its condition has the given outcome. -/
  | loop (goOn : Bool) (condition body : Script)
  /-- A loop over words, or over the arguments. -/
  | each (name : String) (words : Option (List (List Piece))) (body : Script)
  | select (word : List Piece) (arms : List (List (List Piece) × Script))
  | define (name : String) (body : Script)
  /-- A command whose faults are those of a line. -/
  | numbered (line : Nat) (s : Script)

end

/-- A word: its pieces. -/
abbrev Word := List Piece

/-- The names of the commands that belong to every shell: no function can have one of them, their
faults end the shell, and what is assigned in front of them stays. -/
def specialNames : List String :=
  [":", ".", "break", "continue", "eval", "exec", "exit", "export", "local", "readonly", "return",
    "set", "shift", "times", "trap", "unset"]

/-- A text that a script holds for a command to read. -/
structure Document where
  text : List Char
  /-- Whether the text stays as it is. -/
  quoted : Bool

end Assay.Shell
