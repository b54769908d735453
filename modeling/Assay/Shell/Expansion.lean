import Assay.Shell.Arithmetic
import Assay.Shell.Parser
import Assay.Shell.Pattern
import Assay.Shell.State
import Assay.Text.Digit

/-!
# Expansion of words

The pieces of a word are replaced by what they stand for. What unquoted pieces gave is then split
into fields at the separators, and a field with an active character becomes the names of the files
that it matches, if there are any.
-/

namespace Assay.Shell

open Machine

/-- What pieces give: characters, which may be split at or not; the mark of a quoted piece, which
makes a field even if it is empty; and the border between two arguments. -/
inductive Item where
  | glyph (g : Glyph) (splits : Bool)
  | mark
  | border

/-- The items of a text. -/
def textItems (quoted splits : Bool) (s : String) : List Item :=
  let items := s.toList.map fun c => Item.glyph ⟨c, quoted⟩ splits
  if quoted then .mark :: items else items

/-- Arguments with borders between them. -/
def argumentItems (quoted : Bool) : List String → List Item
  | [] => []
  | [a] => textItems quoted (!quoted) a
  | a :: rest => textItems quoted (!quoted) a ++ .border :: argumentItems quoted rest

/-- The characters of items; a border is a blank. -/
def itemGlyphs (items : List Item) : List Glyph :=
  items.filterMap fun
    | .glyph g _ => some g
    | .mark => none
    | .border => some ⟨' ', true⟩

/-- The text of items. -/
def itemText (items : List Item) : String :=
  textOf (itemGlyphs items)

/-! ## Home directories -/

/-- The home directories of the users that there are. -/
def homes : List (String × String) :=
  [("root", "/root"), ("daemon", "/usr/sbin"), ("bin", "/bin"), ("sys", "/dev"),
    ("nobody", "/nonexistent")]

/-- The home directory of a user, or without a name that of the shell. -/
def homeOf? (own : Option String) (name : List Char) : Option String :=
  if name.isEmpty then own else homes.lookup (String.ofList name)

/-- Pieces behind a place at which a tilde stands for a home directory; in an assignment one behind
a colon does so too. -/
def expandTilde (own : Option String) (assignment last : Bool) (s : List Char) :
    Option (List Char × List Char) :=
  match s with
  | '~' :: rest =>
    let ends (c : Char) : Bool := c = '/' || (assignment && c = ':')
    let name := rest.takeWhile (!ends ·)
    let behind := rest.drop name.length
    if behind.isEmpty && !last then none
    else (homeOf? own name).map fun home => (home.toList, behind)
  | _ => none

/-- The pieces of unquoted text with the tildes behind colons expanded; `place` says whether one may
stand in front, and the fuel is the length of the text. -/
def expandColons (own : Option String) (last : Bool) :
    (fuel : Nat) → (place : Bool) → List Char → Word
  | 0, _, _ => []
  | _ + 1, _, [] => []
  | fuel + 1, place, s =>
    match if place then expandTilde own true last s else none with
    | some (home, behind) => .text true home :: expandColons own last fuel false behind
    | none =>
      let front := s.takeWhile (· ≠ ':')
      match s.drop front.length with
      | [] => [.text false s]
      | _ :: behind =>
        .text false (front ++ [':']) :: expandColons own last fuel true behind

/-- The pieces of an assigned word with home directories in the place of tildes. -/
def expandAssigned (own : Option String) (place : Bool) : Word → Word
  | .text false s :: rest =>
    expandColons own rest.isEmpty (s.length + 1) place s ++
      expandAssigned own (s.getLast? = some ':') rest
  | p :: rest => p :: expandAssigned own false rest
  | [] => []

/-- A word with a home directory in the place of a tilde at its front. -/
def expandHome (own : Option String) : Word → Word
  | .text false s :: rest =>
    match expandTilde own false rest.isEmpty s with
    | some (home, behind) => .text true home :: .text false behind :: rest
    | none => .text false s :: rest
  | w => w

/-! ## Parameters -/

/-- What stands between arguments that are put into one text. -/
def joint : Eval String := do
  match ← valueOf "IFS" with
  | none => return " "
  | some s => return String.ofList (s.toList.take 1)

/-- The value of a parameter: an argument by its number, a property of the shell by its sign, or a
variable. -/
def parameterOf (name : String) : Eval (Option String) := do
  let s ← shell
  if name = "@" || name = "*" then return some ((← joint).intercalate s.args)
  else if name = "#" then return some (toString s.args.length)
  else if name = "?" then return some (toString s.status)
  else if name = "$" then return some (toString s.process)
  else if name = "!" then return s.background.map toString
  else if name = "-" then return some s.settings.letters
  else if name = "0" then return some s.name
  else if name.toList.all Char.isDigit then
    return s.args[(Text.digitsValue name.toList) - 1]?
  else valueOf name

/-- The value of a parameter; one without a value may be a fault. -/
def neededParameter (name : String) : Eval String := do
  match ← parameterOf name with
  | some v => return v
  | none =>
    if (← shell).settings.contains .nounset then fatal (name ++ ": parameter not set")
    else return ""

/-- The items of a parameter. Arguments stay apart where fields are made. -/
def parameterItems (quoted fields : Bool) (name : String) : Eval (List Item) := do
  let s ← shell
  if fields && (name = "@" || (name = "*" && !quoted)) then return argumentItems quoted s.args
  else return textItems quoted (!quoted) (← neededParameter name)

/-- The shortest or longest part of octets that a pattern matches at their front, taken off. -/
def trimFront (longest : Bool) (ps : List PatternPart) (s : List Char) : List Char :=
  let cuts := (List.range (s.length + 1)).filter fun n => matchesParts ps (s.take n)
  match if longest then cuts.getLast? else cuts.head? with
  | some n => s.drop n
  | none => s

/-- The shortest or longest part of octets that a pattern matches at their back, taken off. -/
def trimBack (longest : Bool) (ps : List PatternPart) (s : List Char) : List Char :=
  let cuts := (List.range (s.length + 1)).filter fun n => matchesParts ps (s.drop n)
  match if longest then cuts.head? else cuts.getLast? with
  | some n => s.take n
  | none => s

/-- The text without the line breaks at its end. -/
def withoutBreaks (s : String) : String :=
  String.ofList (s.toList.reverse.dropWhile (· = '\n')).reverse

/-- The value of a number expression. -/
def numberOfExpression (text : String) : Eval Int := do
  let s ← shell
  let value (name : String) : Except ExprFault Int :=
    match (s.bindings.lookup name).bind Variable.value with
    | none => .ok 0
    | some v =>
      match variableNumber? v with
      | some n => .ok n
      | none => .error (.illegalNumber v)
  match evaluate value text with
  | .ok (n, assigned) =>
    for (name, v) in assigned do setVariable name (toString v)
    return n
  | .error fault => fatal (fault.message text)

/-- Assigns a word to a parameter that has no value. -/
def assignDefault (name value : String) : Eval Unit :=
  if isName name.toList then setVariable name value else fatal (name ++ ": bad variable name")

mutual

/-- The items of a piece. `splits` says whether unquoted text can be split at, `fields` whether
arguments stay apart, and `printed` what a script prints. -/
def expandPiece (printed : Script → Eval String) (splits fields : Bool) :
    Piece → Eval (List Item)
  | .text quoted s => return textItems quoted (splits && !quoted) (String.ofList s)
  | .value quoted name => parameterItems quoted fields name
  | .length quoted name => do
    let n ← if name = "@" || name = "*" then pure (← shell).args.length
      else pure (← neededParameter name).utf8ByteSize
    return textItems quoted (!quoted) (toString n)
  | .fallback quoted name kind blank word => do
    let value ← if name = "@" || name = "*" then do
        let s ← shell
        pure (if s.args.isEmpty then none else some (" ".intercalate s.args))
      else parameterOf name
    let there := value.any fun v => !(blank && v.isEmpty)
    let empty : List Item := if quoted then [.mark] else []
    match kind with
    | .use =>
      if there then parameterItems quoted fields name
      else return empty ++ (← expandDefault printed (!quoted) fields word)
    | .alternative =>
      if there then return empty ++ (← expandDefault printed (!quoted) fields word)
      else return empty
    | .assign =>
      if there then parameterItems quoted fields name
      else
        let text := itemText (← expandDefault printed false false word)
        assignDefault name text
        return textItems quoted (!quoted) text
    | .complain =>
      if there then parameterItems quoted fields name
      else
        let text := itemText (← expandDefault printed false false word)
        let words :=
          if word.isEmpty then "parameter not set" ++ if blank then " or null" else "" else text
        fatal (name ++ ": " ++ words)
  | .trimmed quoted name front longest word => do
    let value := toOctets (← neededParameter name).toList
    let ps := pattern (itemGlyphs (← expandDefault printed false false word))
    let rest := if front then trimFront longest ps value else trimBack longest ps value
    return textItems quoted (!quoted) (ofOctets rest)
  | .output quoted script => do
    return textItems quoted (!quoted) (withoutBreaks (← printed script))
  | .number quoted ps => do
    let text := itemText (← expandPieces printed false false ps)
    return textItems quoted (!quoted) (toString (← numberOfExpression text))
  | .bad => fatal "Bad substitution"

/-- The items of pieces. -/
def expandPieces (printed : Script → Eval String) (splits fields : Bool) :
    List Piece → Eval (List Item)
  | [] => return []
  | p :: rest => do
    let items ← expandPiece printed splits fields p
    return items ++ (← expandPieces printed splits fields rest)

/-- The items of pieces that stand in the place of a value. A tilde in front of them stands for a
home directory. -/
def expandDefault (printed : Script → Eval String) (splits fields : Bool) :
    List Piece → Eval (List Item)
  | [] => return []
  | .text false s :: rest => do
    let own ← valueOf "HOME"
    let front := match expandTilde own false rest.isEmpty s with
      | some (home, behind) =>
        textItems true false (String.ofList home) ++
          textItems false splits (String.ofList behind)
      | none => textItems false splits (String.ofList s)
    return front ++ (← expandPieces printed splits fields rest)
  | p :: rest => do
    let items ← expandPiece printed splits fields p
    return items ++ (← expandPieces printed splits fields rest)

end

/-! ## Fields -/

/-- The separators. -/
def separators : Eval (List Char) :=
  return ((← valueOf "IFS").getD " \t\n").toList

/-- Whether a separator is a blank, which separates only together with others. -/
def isBlankSeparator (c : Char) : Bool :=
  c = ' ' || c = '\t' || c = '\n'

/-- Splits items into fields. The field that is being read comes last; `open?` says whether only
blanks have separated so far, so that a separator that is no blank still belongs to them. -/
def splitItems (separators : List Char) :
    List Item → (current : Option (List Glyph)) → ( open? : Bool) → List (List Glyph)
  | [], current, _ => current.toList.map List.reverse
  | .mark :: rest, current, _ => splitItems separators rest (some (current.getD [])) false
  | .border :: rest, current, _ =>
    current.toList.map List.reverse ++ splitItems separators rest none false
  | .glyph g splits :: rest, current, open? =>
    if splits && separators.contains g.char then
      let blank := isBlankSeparator g.char
      match current with
      | some gs => gs.reverse :: splitItems separators rest none blank
      | none =>
        if blank then splitItems separators rest none open?
        else if open? then splitItems separators rest none false
        else [] :: splitItems separators rest none false
    else splitItems separators rest (some (g :: current.getD [])) false

/-- The names in a directory that a pattern matches. A point at the beginning has to be written. -/
def matchingNames (w : World) (directory : List String) (path : String) (gs : List Glyph) :
    List String :=
  match Machine.list w.root directory (if path.isEmpty then "." else path) with
  | .error _ => []
  | .ok names =>
    let ps := pattern gs
    let dotted := gs.head?.any fun g => g.char = '.'
    let names := if dotted then "." :: ".." :: names else names
    names.filter fun n => matchesText ps n && (dotted || !n.startsWith ".")

/-- The paths that a pattern between slashes matches, behind a path. -/
def matchingPaths (w : World) (directory : List String) (path : String) :
    List (List Glyph) → List String
  | [] => [path]
  | [part] =>
    if isActive part then (matchingNames w directory path part).map (path ++ ·)
    else
      let full := path ++ textOf part
      match find w.root directory false full with
      | .ok _ => [full]
      | .error _ => []
  | part :: rest =>
    if isActive part then
      (matchingNames w directory path part).flatMap fun n =>
        matchingPaths w directory (path ++ n ++ "/") rest
    else matchingPaths w directory (path ++ textOf part ++ "/") rest

/-- The parts of a pattern between slashes. -/
def splitSlashes : List Glyph → List (List Glyph)
  | [] => [[]]
  | g :: rest =>
    if g.char = '/' then [] :: splitSlashes rest
    else match splitSlashes rest with
      | part :: parts => (g :: part) :: parts
      | [] => [[g]]

/-- The paths that a field stands for, in order: those it matches, or its text. -/
def fieldPaths (s : State) (gs : List Glyph) : List String :=
  if isActive gs && !s.shell.settings.contains .noglob then
    match matchingPaths s.world s.shell.directory "" (splitSlashes gs) with
    | [] => [textOf gs]
    | paths => paths.mergeSort fun a b => a ≤ b
  else [textOf gs]

/-- The fields of a word. -/
def expandWord (printed : Script → Eval String) (w : Word) : Eval (List String) := do
  let items ← expandPieces printed false true (expandHome (← valueOf "HOME") w)
  let fields := splitItems (← separators) items none false
  let s ← get
  return fields.flatMap (fieldPaths s)

/-- The fields of words. -/
def expandWords (printed : Script → Eval String) : List Word → Eval (List String)
  | [] => return []
  | w :: rest => do
    let fields ← expandWord printed w
    return fields ++ (← expandWords printed rest)

/-- The text of a word that is not split. -/
def expandText (printed : Script → Eval String) (w : Word) : Eval String := do
  return itemText (← expandPieces printed false false (expandHome (← valueOf "HOME") w))

/-- The text of a word that is assigned. -/
def expandValue (printed : Script → Eval String) (w : Word) : Eval String := do
  let w := expandAssigned (← valueOf "HOME") true w
  return itemText (← expandPieces printed false false w)

/-- The text of a document. -/
def expandDocument (printed : Script → Eval String) (d : Document) : Eval String := do
  match d.pieces (← shell).documents with
  | .ok (w, documents) =>
    changeShell fun s => { s with documents }
    return itemText (← expandPieces printed false false w)
  | .error fault => fatal ("Syntax error: " ++ fault.message)

/-- The pattern of a word. -/
def expandPattern (printed : Script → Eval String) (w : Word) : Eval (List PatternPart) := do
  let w := expandHome (← valueOf "HOME") w
  return pattern (itemGlyphs (← expandPieces printed false false w))

end Assay.Shell
