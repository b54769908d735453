import Assay.Shell.Process

/-!
# Commands of the shell itself

What the commands have in common that the shell carries out without a program. A fault of one is
reported in its name; it ends the shell if the command is one of the special ones.
-/

namespace Assay.Shell

/-- The options of one argument of a command of the shell; an error is a message. -/
def shellLetters (plain valued : String) :
    List Char → Except String (List (Char × String) × Option Char)
  | [] => .ok ([], none)
  | c :: rest =>
    if plain.toList.contains c then do
      let (letters, waiting) ← shellLetters plain valued rest
      return ((c, "") :: letters, waiting)
    else if valued.toList.contains c then
      if rest.isEmpty then .ok ([], some c) else .ok ([(c, String.ofList rest)], none)
    else .error ("Illegal option -" ++ String.singleton c)

/-- The options in front of the arguments of a command of the shell; an error is a message. -/
def shellOptions (plain valued : String) : List String → Except String Options
  | [] => .ok {}
  | arg :: rest =>
    if arg = "--" then .ok { operands := rest }
    else if arg.startsWith "-" && arg ≠ "-" then do
      match ← shellLetters plain valued arg.toList.tail, rest with
      | (letters, none), rest =>
        let o ← shellOptions plain valued rest
        return { o with letters := letters ++ o.letters }
      | (letters, some c), value :: rest =>
        let o ← shellOptions plain valued rest
        return { o with letters := letters ++ (c, value) :: o.letters }
      | (_, some c), [] => .error ("No arg for -" ++ String.singleton c ++ " option")
    else .ok { operands := arg :: rest }

/-- A command of the shell with options. -/
def withLetters (plain valued : String) (body : Options → Eval Nat) : Utility := fun args =>
  match shellOptions plain valued args with
  | .ok o => body o
  | .error message => fatal message

/-- The number that an argument must write. -/
def neededNumber (arg : String) : Eval Nat :=
  match naturalNumber? arg with
  | some n => return n
  | none => fatal ("Illegal number: " ++ arg)

/-- The number that the first argument writes, or another one if there is none. -/
def firstNumber (default : Nat) (args : List String) : Eval Nat :=
  match args with
  | [] => return default
  | a :: _ => neededNumber a

/-- A text as a script would have to write it: between single quotes, and single quotes between
double ones. -/
def scriptQuoted (s : String) : String :=
  let rec quoted : (fuel : Nat) → List Char → String
    | 0, _ => ""
    | fuel + 1, s =>
      let front := s.takeWhile (· ≠ '\'')
      let rest := s.drop front.length
      let marks := rest.takeWhile (· = '\'')
      let part := "'" ++ String.ofList front ++ "'"
      if marks.isEmpty then part
      else
        let behind := rest.drop marks.length
        part ++ "\"" ++ String.ofList marks ++ "\"" ++
          if behind.isEmpty then "" else quoted fuel behind
  quoted (s.length + 1) s.toList

end Assay.Shell
