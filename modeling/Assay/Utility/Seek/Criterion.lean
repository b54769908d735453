import Assay.Shell.Pattern
import Assay.Utility.Expression.Match
import Assay.Utility.Expression.Parser
import Assay.Utility.Launch
import Assay.Utility.Listing

/-!
# What is searched for

`find` tells which files meet a criterion, which is made of tests by operators. Some tests are
actions: they hold if what they do succeeds.
-/

namespace Assay.Seek

open Machine Host Shell

/-- A number to compare with: the same, or with a sign more or less. -/
structure Bound where
  sign : Option Char
  number : Nat

/-- Whether a number is within a bound. -/
def Bound.admits (b : Bound) (n : Nat) : Bool :=
  match b.sign with
  | some '+' => b.number < n
  | some _ => n < b.number
  | none => n = b.number

/-- Which of the bits of a mode have to be set: exactly those, all of those, or any of them. -/
inductive BitTest where
  | exactly
  | every
  | any

/-- A test of a file, or an action. -/
inductive Test where
  | constant (holds : Bool)
  | name (pattern : List PatternPart) (folded : Bool)
  | path (pattern : List PatternPart) (folded : Bool)
  | target (pattern : List PatternPart) (folded : Bool)
  | expression (a : Expression.Automaton)
  | type (letters : List Char)
  | finalType (letters : List Char)
  | size (b : Bound) (unit : Nat)
  | empty
  | mode (t : BitTest) (bits : Nat)
  | age (b : Bound)
  | links (b : Bound)
  | owner (b : Bound)
  | permits (holds : Nat → Bool)
  | sameFile (names : List String)
  | prune
  | quit
  | delete
  | print (finish : String)
  | format (text : String)
  /-- Runs a program with words for each file; `inPlace` says whether in its directory. -/
  | execute (words : List String) (inPlace : Bool)
  /-- Runs a program once for many files; the number tells such actions apart. -/
  | collect (number : Nat) (words : List String)

/-- Whether a test is an action in whose presence paths are not printed by default. -/
def Test.isAction : Test → Bool
  | .delete | .print _ | .format _ | .execute .. | .collect .. => true
  | _ => false

/-- A criterion. -/
inductive Criterion where
  | test (t : Test)
  | not (c : Criterion)
  | both (a b : Criterion)
  | either (a b : Criterion)
  /-- The second one decides; the first one is only tried. -/
  | second (a b : Criterion)

/-! ## Building criteria -/

/-- What criteria are written with. -/
inductive SeekToken where
  | test (t : Test)
  | not (word : String)
  | both (word : String)
  | either (word : String)
  | comma
  | opening
  | closing

/-- The word of an operator between two criteria. -/
def SeekToken.binary? : SeekToken → Option String
  | .both w | .either w => some w
  | .comma => some ","
  | _ => none

/-- Reading a criterion: what is read, and the tokens behind it; an error is a message. -/
abbrev ReadCriterion := Except String (Criterion × List SeekToken)

mutual

/-- Reads a criterion without operators between criteria; `front` is the operator or parenthesis in
front of it. -/
def readOperand (front : String) : (fuel : Nat) → List SeekToken → ReadCriterion
  | 0, _ => .error "invalid expression"
  | _ + 1, [] => .error ("expected an expression after '" ++ front ++ "'")
  | fuel + 1, token :: rest =>
    match token with
    | .test t => .ok (.test t, rest)
    | .not word => do
      let (c, rest) ← readOperand word fuel rest
      return (.not c, rest)
    | .opening =>
      match rest with
      | [] =>
        .error ("invalid expression; expected to find a ')' but didn't see one. " ++
          "Perhaps you need an extra predicate after '('")
      | .closing :: _ => .error "invalid expression; empty parentheses are not allowed."
      | rest => do
        match ← readCriterion "(" fuel 0 rest with
        | (c, .closing :: rest) => return (c, rest)
        | _ =>
          throw ("invalid expression; I was expecting to find a ')' somewhere but did not see one.")
    | .closing =>
      if front = "(" then .error "invalid expression; you have too many ')'"
      else .error ("expected an expression between '" ++ front ++ "' and ')'")
    | token =>
      .error ("invalid expression; you have used a binary operator '" ++
        token.binary?.getD "" ++ "' with nothing before it.")

/-- Reads a criterion with operators of a level or of stronger ones. -/
def readCriterion (front : String) : (fuel : Nat) → (level : Nat) → List SeekToken → ReadCriterion
  | 0, _, _ => .error "invalid expression"
  | fuel + 1, level, tokens => do
    let (c, rest) ←
      if level < 2 then readCriterion front fuel (level + 1) tokens
      else readOperand front fuel tokens
    readMore fuel level c rest

/-- Reads the operators of a level behind a criterion, with what follows them. -/
def readMore : (fuel : Nat) → (level : Nat) → Criterion → List SeekToken → ReadCriterion
  | 0, _, _, _ => .error "invalid expression"
  | fuel + 1, level, c, tokens =>
    match level, tokens with
    | 0, .comma :: rest => do
      let (d, rest) ← readCriterion "," fuel 1 rest
      readMore fuel level (.second c d) rest
    | 1, .either word :: rest => do
      let (d, rest) ← readCriterion word fuel 2 rest
      readMore fuel level (.either c d) rest
    | 2, .both word :: rest => do
      let (d, rest) ← readOperand word fuel rest
      readMore fuel level (.both c d) rest
    | 2, .test t :: rest => readMore fuel level (.both c (.test t)) rest
    | 2, .not word :: rest => do
      let (d, rest) ← readOperand "-a" fuel (.not word :: rest)
      readMore fuel level (.both c d) rest
    | 2, .opening :: rest => do
      let (d, rest) ← readOperand "-a" fuel (.opening :: rest)
      readMore fuel level (.both c d) rest
    | _, tokens => .ok (c, tokens)

end

/-- The criterion that tokens write. Without actions, the paths of files that meet it are
printed. -/
def criterionOf (tokens : List SeekToken) : Except String Criterion := do
  let printing : Criterion := .test (.print "\n")
  if tokens.isEmpty then return printing
  let (c, rest) ← readCriterion "" (5 * tokens.length + 5) 0 tokens
  if !rest.isEmpty then throw "you have too many ')'"
  let acts := tokens.any fun
    | .test t => t.isAction
    | _ => false
  return if acts then c else .both c printing

/-! ## Reading tests -/

/-- How a search goes on, and what it is for. -/
structure Order where
  tokens : List SeekToken := []
  most : Option Nat := none
  least : Nat := 0
  /-- Whether what is in a directory comes in front of it. -/
  upwards : Bool := false
  /-- Whether links are followed. -/
  follows : Bool := false
  extended : Bool := false

/-- The search with a test behind the others. -/
def Order.add (s : Order) (t : Test) : Order :=
  { s with tokens := s.tokens ++ [.test t] }

/-- The bound that a text writes. -/
def bound? (s : String) : Option Bound :=
  match s.toList with
  | c :: ds =>
    if c = '+' || c = '-' then (naturalNumber? (String.ofList ds)).map (⟨some c, ·⟩)
    else (naturalNumber? s).map (⟨none, ·⟩)
  | [] => none

/-- An expression that has plus signs and question marks as operators, written so that they have a
backslash; `inSet` says whether it begins in brackets. -/
def withSignsMarked : (inSet : Bool) → List Char → List Char
  | _, [] => []
  | false, '\\' :: c :: rest =>
    if c = '+' || c = '?' then c :: withSignsMarked false rest
    else '\\' :: c :: withSignsMarked false rest
  | false, '[' :: ']' :: rest => '[' :: ']' :: withSignsMarked true rest
  | false, '[' :: '^' :: ']' :: rest => '[' :: '^' :: ']' :: withSignsMarked true rest
  | inSet, c :: rest =>
    if inSet then c :: withSignsMarked (c ≠ ']') rest
    else if c = '+' || c = '?' then '\\' :: c :: withSignsMarked false rest
    else c :: withSignsMarked (c = '[') rest

/-- The test of a mode that a text writes. -/
def bitTest? (s : String) : Option Test :=
  let (kind, text) := match s.toList with
    | '-' :: rest => (BitTest.every, String.ofList rest)
    | '/' :: rest => (.any, String.ofList rest)
    | _ => (.exactly, s)
  (modeChange? 0 text).map fun change => .mode kind (change false 0)

/-- The letters of types that a text names. -/
def typeLetters (option s : String) : Except String (List Char) :=
  if s.isEmpty then .error ("Arguments to " ++ option ++ " should contain at least one letter")
  else
    (Text.splitAt ',' s.toList).mapM fun
      | [c] =>
        if "bcdflps".toList.contains c then .ok c
        else .error ("Unknown argument to " ++ option ++ ": " ++ String.singleton c)
      | c :: _ =>
        if "bcdflps".toList.contains c then
          .error ("Must separate multiple arguments to " ++ option ++ " using: ','")
        else .error ("Unknown argument to " ++ option ++ ": " ++ String.singleton c)
      | [] =>
        .error ("Last file type in list argument to " ++ option ++
          " is missing, i.e., list is ending on: ','")

/-- The units of sizes. -/
def sizeUnits : List (Char × Nat) :=
  [('c', 1), ('w', 2), ('b', 512), ('k', 1024), ('M', 1048576), ('G', 1073741824)]

/-- The test of a size that a text writes. -/
def sizeTest? (s : String) : Option Test :=
  match s.toList.getLast? with
  | none => none
  | some last =>
    match sizeUnits.lookup last with
    | some unit =>
      (bound? (String.ofList s.toList.dropLast)).map (.size · unit)
    | none => (bound? s).map (.size · 512)

/-- The tests that have no argument, by their names. -/
def plainTests : List (String × Test) :=
  [("-print", .print "\n"), ("-print0", .print "\x00"), ("-empty", .empty), ("-prune", .prune),
    ("-quit", .quit), ("-true", .constant true), ("-false", .constant false),
    ("-nouser", .constant false), ("-nogroup", .constant false), ("-readable", .permits mayRead),
    ("-writable", .permits mayWrite), ("-executable", .permits maySearch)]

/-- The options that have no argument and no effect. -/
def idleOptions : List String :=
  ["-mount", "-xdev", "-noleaf", "-daystart", "-warn", "-nowarn", "-ignore_readdir_race",
    "-noignore_readdir_race"]

/-- The search with a test or an option that has an argument; an error is a message. -/
def Order.addWithArgument (s : Order) (name arg : String) :
    Option (Except String Order) :=
  let folded := name.startsWith "-i"
  let parts := pattern (glyphs false (if folded then arg.toLower else arg).toList)
  let bounded (test : Bound → Test) : Except String Order :=
    match bound? arg with
    | some b => .ok (s.add (test b))
    | none => .error ("invalid argument \x60" ++ arg ++ "' to \x60" ++ name ++ "'")
  let depth (set : Nat → Order) : Except String Order :=
    match naturalNumber? arg with
    | some n => .ok { set n with tokens := s.tokens ++ [.test (.constant true)] }
    | none =>
      .error ("Expected a positive decimal integer argument to " ++ name ++ ", but got " ++
        quotedName arg)
  match name with
  | "-name" | "-iname" => some (.ok (s.add (.name parts folded)))
  | "-path" | "-ipath" | "-wholename" | "-iwholename" => some (.ok (s.add (.path parts folded)))
  | "-lname" | "-ilname" => some (.ok (s.add (.target parts folded)))
  | "-regex" | "-iregex" =>
    let text := if s.extended then arg else String.ofList (withSignsMarked false arg.toList)
    some <| match Expression.compile { extended := s.extended } folded (textBytes text) with
      | .ok a => .ok (s.add (.expression a))
      | .error fault =>
        .error ("failed to compile regular expression '" ++ arg ++ "': " ++ fault.message)
  | "-regextype" =>
    let extended := ["posix-extended", "posix-egrep", "egrep", "posix-awk", "awk", "gnu-awk"]
    some (.ok { s.add (.constant true) with extended := extended.contains arg })
  | "-type" => some ((fun ls => s.add (.type ls)) <$> typeLetters name arg)
  | "-xtype" => some ((fun ls => s.add (.finalType ls)) <$> typeLetters name arg)
  | "-size" =>
    some <| match sizeTest? arg with
      | some t => .ok (s.add t)
      | none =>
        let what := (arg.toList.getLast?).all fun c => c.isDigit || (sizeUnits.lookup c).isSome
        .error ((if what then "Invalid argument \x60" ++ arg ++ "' to -size"
          else "invalid -size type \x60" ++ String.ofList (arg.toList.getLast?).toList ++ "'"))
  | "-perm" =>
    some <| match bitTest? arg with
      | some t => .ok (s.add t)
      | none => .error ("invalid mode " ++ quotedName arg)
  | "-mtime" | "-atime" | "-ctime" | "-mmin" | "-amin" | "-cmin" => some (bounded .age)
  | "-links" => some (bounded .links)
  | "-uid" | "-gid" => some (bounded .owner)
  | "-user" | "-group" =>
    some <| match if arg = "root" then some 0 else naturalNumber? arg with
      | some n => .ok (s.add (.owner ⟨none, n⟩))
      | none =>
        .error (quotedName arg ++ " is not the name of " ++
          if name = "-user" then "a known user" else "an existing group")
  | "-maxdepth" => some (depth fun n => { s with most := some n })
  | "-mindepth" => some (depth fun n => { s with least := n })
  | "-printf" => some (.ok (s.add (.format arg)))
  | _ => none

/-- The words of a command up to its end, and whether it is run once for many files. -/
def commandWords : List String → Option (List String × Bool × List String)
  | [] => none
  | ";" :: rest => some ([], false, rest)
  | "{}" :: "+" :: rest => some ([], true, rest)
  | word :: rest =>
    (commandWords rest).map fun (words, many, rest) => (word :: words, many, rest)

/-- The search that words write, from left to right; of at most so many words. -/
def Order.read : (fuel : Nat) → Order → List String → Eval (Except String Order)
  | 0, s, _ | _, s, [] => return .ok s
  | fuel + 1, s, word :: rest => do
    let token (t : SeekToken) : Eval (Except String Order) :=
      Order.read fuel { s with tokens := s.tokens ++ [t] } rest
    match word with
    | "(" => token .opening
    | ")" => token .closing
    | "!" | "-not" => token (.not word)
    | "-a" | "-and" => token (.both word)
    | "-o" | "-or" => token (.either word)
    | "," => token .comma
    | "-delete" => Order.read fuel { s.add .delete with upwards := true } rest
    | "-depth" | "-d" => Order.read fuel { s.add (.constant true) with upwards := true } rest
    | "-follow" => Order.read fuel { s.add (.constant true) with follows := true } rest
    | "-newer" | "-anewer" | "-cnewer" | "-samefile" =>
      match rest with
      | [] => return .error ("missing argument to \x60" ++ word ++ "'")
      | path :: rest =>
        match ← partOf s.follows path with
        | .error fault => return .error (quotedName path ++ ": " ++ fault.words)
        | .ok (names, _) =>
          let t := if word = "-samefile" then Test.sameFile names else .constant false
          Order.read fuel (s.add t) rest
    | "-exec" | "-execdir" | "-ok" | "-okdir" =>
      match commandWords rest with
      | none => return .error ("missing argument to \x60" ++ word ++ "'")
      | some (words, many, rest') =>
        if words.isEmpty then
          return .error ("invalid argument \x60" ++ (rest.headD "") ++ "' to \x60" ++ word ++ "'")
        else if many && words.contains "{}" then
          return .error ("Only one instance of {} is supported with " ++ word ++ " ... +")
        else
          let t := if word.startsWith "-ok" then Test.constant false
            else if many then .collect rest'.length words
            else .execute words (word = "-execdir")
          Order.read fuel (s.add t) rest'
    | word =>
      match plainTests.lookup word with
      | some t => Order.read fuel (s.add t) rest
      | none =>
        if idleOptions.contains word then
          Order.read fuel (s.add (.constant true)) rest
        else if !word.startsWith "-" then
          return .error ("paths must precede expression: \x60" ++ word ++ "'")
        else
          match s.addWithArgument word (rest.headD ""), rest with
          | none, _ => return .error ("unknown predicate \x60" ++ word ++ "'")
          | some _, [] => return .error ("missing argument to \x60" ++ word ++ "'")
          | some (.error message), _ => return .error message
          | some (.ok s), _ :: rest => Order.read fuel s rest

end Assay.Seek
