import Assay.Shell.Syntax

/-!
# Reading scripts

A script is read line by line: a line is run before the next one is read, so a fault in a line does
not keep the lines in front of it from running. Every reader takes its commands from the text in
front of it and leaves the rest.
-/

namespace Assay.Shell

/-- Why a text is no script. -/
inductive SyntaxFault where
  | openQuote
  | openBackquote
  | openBrace
  /-- Something stands where it must not, perhaps in the place of something else. -/
  | unexpected (what : String) (wanted : Option String)
  | openExpression
  /-- What follows `for` is no name. -/
  | badVariable
  /-- What is to be the name of a function cannot be one. -/
  | badFunction

/-- A fault in words. -/
def SyntaxFault.message : SyntaxFault → String
  | .openQuote => "Unterminated quoted string"
  | .openBackquote => "EOF in backquote substitution"
  | .openBrace => "Missing '\x7d'"
  | .unexpected what none => what ++ " unexpected"
  | .unexpected what (some wanted) => what ++ " unexpected (expecting " ++ wanted ++ ")"
  | .openExpression => "Missing '))'"
  | .badVariable => "Bad for loop variable"
  | .badFunction => "Bad function name"

/-- A document that stands behind the line that is read. -/
structure Awaited where
  number : Nat
  /-- The line that ends it. -/
  mark : List Char
  /-- Whether tabs in front of its lines are left out. -/
  stripped : Bool

/-- A text to be read, and the number of its line. -/
structure Input where
  rest : List Char
  line : Nat := 1
  /-- The documents by their numbers; those that are awaited are empty. -/
  documents : Array Document := #[]
  awaited : List Awaited := []
  /-- The words that stand for others where a command begins. -/
  aliases : List (String × String) := []
  /-- The aliases whose place was taken, with the length of the text behind each. -/
  replaced : List (String × Nat) := []
  /-- The length of the text whose first word may be an alias, wherever it stands. -/
  extended : Option Nat := none

/-- A reader. A fault comes with the number of its line. -/
abbrev Parse := StateT Input (Except (Nat × SyntaxFault))

/-! ## Characters -/

/-- Refuses the text. -/
def refuse {α : Type} (f : SyntaxFault) : Parse α := do
  throw ((← get).line, f)

/-- The text to come. -/
def upcoming : Parse (List Char) :=
  return (← get).rest

/-- Goes over so many characters. -/
def skip (n : Nat) : Parse Unit :=
  modify fun i =>
    { i with rest := i.rest.drop n, line := i.line + (i.rest.take n).count '\n' }

/-- Reads another text from beginning to end, and goes on with the one in front. -/
def within {α : Type} (s : List Char) (body : Parse α) : Parse α := do
  let i ← get
  set { i with rest := s, awaited := [], replaced := [] }
  let a ← body
  modify fun j => { i with documents := j.documents }
  return a

/-- Takes the characters in front that have a property. -/
def takeChars (p : Char → Bool) : Parse (List Char) := do
  let taken := (← upcoming).takeWhile p
  skip taken.length
  return taken

/-- Whether a character ends a word. -/
def endsWord (c : Char) : Bool :=
  " \t\n&;|<>()".toList.contains c

/-- Whether a character stands for itself in a word. -/
def isPlain (c : Char) : Bool :=
  !endsWord c && !"'\"\\$\x60".toList.contains c

/-- Whether a character may begin a name. -/
def startsName (c : Char) : Bool :=
  c.isAlpha || c == '_'

/-- Whether a character may stand in a name. -/
def isNameChar (c : Char) : Bool :=
  c.isAlphanum || c == '_'

/-- Whether a text is a name. -/
def isName : List Char → Bool
  | c :: cs => startsName c && cs.all isNameChar
  | [] => false

/-- Goes over blanks, joined lines and a comment. -/
def skipBlanks : (fuel : Nat) → Parse Unit
  | 0 => pure ()
  | fuel + 1 => do
    match ← upcoming with
    | ' ' :: _ | '\t' :: _ =>
      skip 1
      skipBlanks fuel
    | '\\' :: '\n' :: _ =>
      skip 2
      skipBlanks fuel
    | '#' :: _ =>
      let _ ← takeChars (· ≠ '\n')
    | _ => pure ()

/-- Goes over blanks. -/
def blanks : Parse Unit := do
  skipBlanks ((← upcoming).length + 1)

/-- Takes the lines of a document up to the one that ends it. -/
def documentLines (a : Awaited) : (fuel : Nat) → Parse (List Char)
  | 0 => return []
  | fuel + 1 => do
    let s ← upcoming
    let line := s.takeWhile (· ≠ '\n')
    let shown := if a.stripped then line.dropWhile (· = '\t') else line
    match s.drop line.length with
    | [] =>
      skip line.length
      return if shown = a.mark then [] else shown
    | _ =>
      skip (line.length + 1)
      if shown = a.mark then return [] else return shown ++ '\n' :: (← documentLines a fuel)

/-- Takes the documents that are awaited. -/
def takeDocuments : List Awaited → Parse Unit
  | [] => return ()
  | a :: rest => do
    let text ← documentLines a ((← upcoming).length + 1)
    modify fun i =>
      { i with documents := i.documents.modify a.number fun d => { d with text } }
    takeDocuments rest

/-- Goes over a line break and the documents behind it. -/
def endLine : Parse Unit := do
  skip 1
  let awaited := (← get).awaited
  modify fun i => { i with awaited := [] }
  takeDocuments awaited

/-- Goes over blanks and line breaks. -/
def skipLines : (fuel : Nat) → Parse Unit
  | 0 => pure ()
  | fuel + 1 => do
    blanks
    match ← upcoming with
    | '\n' :: _ =>
      endLine
      skipLines fuel
    | _ => pure ()

/-! ## Marks and reserved words -/

/-- The marks between commands, longer ones first. -/
def marks : List String :=
  ["&&", "||", ";;", "&", ";", "|", "(", ")"]

/-- The words that have a meaning where a command begins. -/
def reserved : List String :=
  ["!", "\x7b", "\x7d", "case", "do", "done", "elif", "else", "esac", "fi", "for", "if", "in",
    "then", "until", "while"]

/-- The words that end a list of commands. -/
def closers : List String :=
  ["\x7d", "do", "done", "elif", "else", "esac", "fi", "then"]

/-- The mark in front of a text. -/
def markOf (s : List Char) : Option String :=
  marks.find? fun m => m.toList.isPrefixOf s

/-- The unquoted word in front of a text. -/
def bareWord (s : List Char) : Option String :=
  let word := s.takeWhile isPlain
  match s.drop word.length with
  | c :: _ => if endsWord c then some (String.ofList word) else none
  | [] => some (String.ofList word)

/-- The reserved word in front of a text. -/
def reservedOf (s : List Char) : Option String :=
  (bareWord s).bind fun w => if reserved.contains w then some w else none

/-- A mark or a word between quotes, as messages show it. -/
def shown (s : String) : String :=
  "\"" ++ s ++ "\""

/-- What stands in front of a text, in words. -/
def describe (s : List Char) : String :=
  match s with
  | [] => "end of file"
  | '\n' :: _ => "newline"
  | '<' :: _ | '>' :: _ => "redirection"
  | s =>
    match markOf s, reservedOf s with
    | some m, _ => shown m
    | none, some w => shown w
    | none, none => "word"

/-- Refuses what stands in front, where something else may be wanted. -/
def refuseNext {α : Type} (wanted : Option String) : Parse α := do
  refuse (.unexpected (describe (← upcoming)) wanted)

/-- Goes over a mark that must stand in front. -/
def expectMark (mark : String) : Parse Unit := do
  blanks
  if markOf (← upcoming) = some mark then skip mark.length else refuseNext (some (shown mark))

/-- Goes over a reserved word that must stand in front. -/
def expectReserved (word : String) : Parse Unit := do
  blanks
  if reservedOf (← upcoming) = some word then skip word.length else refuseNext (some (shown word))

/-! ## Redirections -/

/-- What a sign in front of a text redirects: the stream, if it is named, what is done with it, and
the length of the sign. A document is yet to be numbered. -/
structure RedirectionSign where
  stream : Nat
  direction : Direction
  length : Nat
  /-- Whether the sign is that of a document from whose lines tabs are left out. -/
  stripped : Bool := false

/-- The sign of a redirection in front of a text. -/
def redirectionSign (s : List Char) : Option RedirectionSign :=
  let (named, s) := match s with
    | d :: c :: rest =>
      if d.isDigit && (c = '<' || c = '>') then (some (d.toNat - '0'.toNat), c :: rest)
      else (none, s)
    | s => (none, s)
  let sign (default : Nat) (direction : Direction) (length : Nat) (stripped : Bool) :
      Option RedirectionSign :=
    let more := if named.isSome then 1 else 0
    some ⟨named.getD default, direction, length + more, stripped⟩
  match s with
  | '>' :: '>' :: _ => sign 1 .append 2 false
  | '>' :: '&' :: _ => sign 1 .copy 2 false
  | '>' :: '|' :: _ => sign 1 .overwrite 2 false
  | '>' :: _ => sign 1 .output 1 false
  | '<' :: '<' :: '-' :: _ => sign 0 (.document 0) 3 true
  | '<' :: '<' :: _ => sign 0 (.document 0) 2 false
  | '<' :: '&' :: _ => sign 0 .copy 2 false
  | '<' :: '>' :: _ => sign 0 .both 2 false
  | '<' :: _ => sign 0 .input 1 false
  | _ => none

/-- The text of pieces of text. -/
def plainText : Word → List Char
  | .text _ s :: rest => s ++ plainText rest
  | _ :: rest => plainText rest
  | [] => []

/-- Awaits a document that ends with a line: the word that was read and how it is written. -/
def awaitDocument (stripped : Bool) (written : List Char) (w : Word) : Parse Nat := do
  let quoted := written.any "'\"\\".toList.contains
  let mark := if quoted then plainText w else written
  let number := (← get).documents.size
  modify fun i =>
    { i with
      documents := i.documents.push { text := [], quoted }
      awaited := i.awaited ++ [⟨number, mark, stripped⟩] }
  return number

/-! ## Aliases -/

/-- Puts what aliases stand for in the place of the word in front. A word that came out of an alias
is not replaced by the same one again. A reserved word is none where it has a meaning. -/
def expandAliases (command : Bool) : (fuel : Nat) → Parse Unit
  | 0 => pure ()
  | fuel + 1 => do
    blanks
    let i ← get
    match bareWord i.rest with
    | none => pure ()
    | some w =>
      let busy := i.replaced.any fun (n, left) => n = w && left < i.rest.length
      match i.aliases.lookup w with
      | none => pure ()
      | some value =>
        if busy || (command && reserved.contains w) then pure ()
        else
          let behind := i.rest.drop w.length
          let extends? := match value.toList.getLast? with
            | some c => c = ' ' || c = '\t'
            | none => false
          set { i with
            rest := value.toList ++ behind
            replaced := (w, behind.length) :: i.replaced
            extended := if extends? then some behind.length else i.extended }
          expandAliases command fuel

/-- How often aliases are replaced in a row. -/
def maxAliases : Nat := 1000

/-- Puts what aliases stand for in the place of a word behind the first one, if it stands behind an
alias that lets it be one. -/
def expandExtended : Parse Unit := do
  let i ← get
  if i.extended.any (i.rest.length ≤ ·) then
    set { i with extended := none }
    expandAliases false maxAliases

/-! ## Text between marks -/

/-- Takes the text up to a single quote. -/
def singleQuoted : Parse (List Char) := do
  let s ← takeChars (· ≠ '\'')
  match ← upcoming with
  | [] => refuse .openQuote
  | _ =>
    skip 1
    return s

/-- The text of a script between backquotes, where a backslash protects some characters. -/
def backquotedText (quoted : Bool) : (fuel : Nat) → Parse (List Char)
  | 0 => refuse .openBackquote
  | fuel + 1 => do
    match ← upcoming with
    | [] => refuse .openBackquote
    | '\x60' :: _ =>
      skip 1
      return []
    | '\\' :: c :: _ =>
      skip 2
      let protectedChar := c = '$' || c = '\x60' || c = '\\' || (quoted && c = '"')
      let rest ← backquotedText quoted fuel
      return if protectedChar then c :: rest else '\\' :: c :: rest
    | c :: _ =>
      skip 1
      return c :: (← backquotedText quoted fuel)

/-- The text of an expression up to its two closing parentheses. -/
def expressionText : (fuel depth : Nat) → Parse (List Char)
  | 0, _ => refuse .openExpression
  | fuel + 1, depth => do
    match ← upcoming with
    | [] => refuse .openExpression
    | ')' :: ')' :: _ =>
      if depth = 0 then
        skip 2
        return []
      else
        skip 1
        return ')' :: (← expressionText fuel (depth - 1))
    | c :: _ =>
      skip 1
      let depth := if c = '(' then depth + 1 else if c = ')' then depth - 1 else depth
      return c :: (← expressionText fuel depth)

/-- The pieces between double quotes; nothing between them is an empty text. -/
def quotedWhole (inner : Word) : Word :=
  if inner.isEmpty then [.text true []] else inner

/-- The fallback of a sign. -/
def Fallback.ofSign? : Char → Option Fallback
  | '-' => some .use
  | '=' => some .assign
  | '+' => some .alternative
  | '?' => some .complain
  | _ => none

/-- Splits an assignment in front of a word into its name and the rest of the word. -/
def assignment? : Word → Option (String × Word)
  | .text false s :: rest =>
    let name := s.takeWhile isNameChar
    match s.drop name.length with
    | '=' :: value =>
      if isName name then
        some (String.ofList name, if value.isEmpty then rest else .text false value :: rest)
      else none
    | _ => none
  | _ => none

/-- The name of a function that a text defines, and the number of characters of the definition in
front of its body. -/
def definition? (s : List Char) : Option (String × Nat) :=
  let isGap (c : Char) : Bool := c = ' ' || c = '\t'
  let name := s.takeWhile isPlain
  let behind := s.drop name.length
  let gap := behind.takeWhile isGap
  match behind.drop gap.length with
  | '(' :: rest =>
    let inner := rest.takeWhile isGap
    match rest.drop inner.length with
    | ')' :: _ =>
      if name.isEmpty || reserved.contains (String.ofList name) then none
      else some (String.ofList name, name.length + gap.length + inner.length + 2)
    | _ => none
  | _ => none

/-! ## Words and commands -/

mutual

/-- Reads the pieces of a word. -/
def pieces : (fuel : Nat) → Parse Word
  | 0 => refuseNext none
  | fuel + 1 => do
    match ← upcoming with
    | [] => return []
    | c :: rest =>
      if endsWord c then return []
      else if c = '\'' then
        skip 1
        let s ← singleQuoted
        return .text true s :: (← pieces fuel)
      else if c = '"' then
        skip 1
        let inner ← quotedPieces false fuel
        return quotedWhole inner ++ (← pieces fuel)
      else if c = '\\' then
        skip 2
        match rest with
        | [] => return [.text true ['\\']]
        | '\n' :: _ => pieces fuel
        | d :: _ => return .text true [d] :: (← pieces fuel)
      else if c = '$' then
        skip 1
        let p ← parameter false fuel
        return p :: (← pieces fuel)
      else if c = '\x60' then
        skip 1
        let p ← backquoted false fuel
        return p :: (← pieces fuel)
      else
        let s ← takeChars isPlain
        return .text false s :: (← pieces fuel)

/-- Reads the pieces up to a double quote, or in a document up to the end. -/
def quotedPieces (document : Bool) : (fuel : Nat) → Parse Word
  | 0 => refuseNext none
  | fuel + 1 => do
    match ← upcoming with
    | [] => if document then return [] else refuse .openQuote
    | c :: rest =>
      skip 1
      if c = '"' && !document then return []
      else if c = '\\' then
        match rest with
        | d :: _ =>
          if d = '\n' then
            skip 1
            quotedPieces document fuel
          else if "$\x60\\".toList.contains d || (d = '"' && !document) then
            skip 1
            return .text true [d] :: (← quotedPieces document fuel)
          else return .text true ['\\'] :: (← quotedPieces document fuel)
        | [] => if document then return [.text true ['\\']] else refuse .openQuote
      else if c = '$' then
        let p ← parameter true fuel
        return p :: (← quotedPieces document fuel)
      else if c = '\x60' then
        let p ← backquoted true fuel
        return p :: (← quotedPieces document fuel)
      else return .text true [c] :: (← quotedPieces document fuel)

/-- Reads the pieces up to a closing brace. -/
def bracedPieces (quoted : Bool) : (fuel : Nat) → Parse Word
  | 0 => refuseNext none
  | fuel + 1 => do
    match ← upcoming with
    | [] => refuse .openBrace
    | c :: rest =>
      skip 1
      if c = '\x7d' then return []
      else if c = '\'' && !quoted then
        let s ← singleQuoted
        return .text true s :: (← bracedPieces quoted fuel)
      else if c = '"' then
        let inner ← quotedPieces false fuel
        return quotedWhole inner ++ (← bracedPieces quoted fuel)
      else if c = '\\' then
        match rest with
        | d :: _ =>
          if quoted && !"$\x60\"\\\x7d".toList.contains d then
            return .text true ['\\'] :: (← bracedPieces quoted fuel)
          else
            skip 1
            return .text true [d] :: (← bracedPieces quoted fuel)
        | [] => refuse .openBrace
      else if c = '$' then
        let p ← parameter quoted fuel
        return p :: (← bracedPieces quoted fuel)
      else if c = '\x60' then
        let p ← backquoted quoted fuel
        return p :: (← bracedPieces quoted fuel)
      else return .text quoted [c] :: (← bracedPieces quoted fuel)

/-- Reads what is behind a dollar sign. -/
def parameter (quoted : Bool) : (fuel : Nat) → Parse Piece
  | 0 => refuseNext none
  | fuel + 1 => do
    match ← upcoming with
    | '(' :: '(' :: rest =>
      skip 2
      let s ← expressionText (rest.length + 1) 0
      return .number quoted (← within s (quotedPieces true fuel))
    | '(' :: _ =>
      skip 1
      let awaited := (← get).awaited
      modify fun i => { i with awaited := [] }
      let s ← optionalList fuel
      expectMark ")"
      modify fun i => { i with awaited }
      return .output quoted s
    | '\x7b' :: _ =>
      skip 1
      braced quoted fuel
    | c :: _ =>
      if startsName c then return .value quoted (String.ofList (← takeChars isNameChar))
      else if c.isDigit || "@*#?-$!".toList.contains c then
        skip 1
        return .value quoted (String.singleton c)
      else return .text quoted ['$']
    | [] => return .text quoted ['$']

/-- Reads a parameter between braces. -/
def braced (quoted : Bool) : (fuel : Nat) → Parse Piece
  | 0 => refuseNext none
  | fuel + 1 => do
    let s ← upcoming
    let named : Parse String := do
      match ← upcoming with
      | c :: _ =>
        if startsName c then return String.ofList (← takeChars isNameChar)
        else if c.isDigit then return String.ofList (← takeChars Char.isDigit)
        else if "@*#?-$!".toList.contains c then
          skip 1
          return String.singleton c
        else return ""
      | [] => return ""
    let isLength := match s with
      | '#' :: c :: _ => isNameChar c || ((c = '@' || c = '*') && (s.drop 2).head? = some '\x7d')
      | _ => false
    if isLength then
      skip 1
      let name ← named
      match ← upcoming with
      | '\x7d' :: _ =>
        skip 1
        return .length quoted name
      | _ =>
        let _ ← bracedPieces quoted fuel
        return .bad
    else
      let name ← named
      let fallback (kind : Fallback) (blank : Bool) : Parse Piece := do
        return .fallback quoted name kind blank (← bracedPieces quoted fuel)
      if name.isEmpty then
        let _ ← bracedPieces quoted fuel
        return .bad
      else match ← upcoming with
        | '\x7d' :: _ =>
          skip 1
          return .value quoted name
        | ':' :: c :: _ =>
          match Fallback.ofSign? c with
          | some kind =>
            skip 2
            fallback kind true
          | none =>
            let _ ← bracedPieces quoted fuel
            return .bad
        | '%' :: '%' :: _ =>
          skip 2
          return .trimmed quoted name false true (← bracedPieces false fuel)
        | '%' :: _ =>
          skip 1
          return .trimmed quoted name false false (← bracedPieces false fuel)
        | '#' :: '#' :: _ =>
          skip 2
          return .trimmed quoted name true true (← bracedPieces false fuel)
        | '#' :: _ =>
          skip 1
          return .trimmed quoted name true false (← bracedPieces false fuel)
        | c :: _ =>
          match Fallback.ofSign? c with
          | some kind =>
            skip 1
            fallback kind false
          | none =>
            let _ ← bracedPieces quoted fuel
            return .bad
        | [] => refuse .openBrace

/-- Reads a script between backquotes. -/
def backquoted (quoted : Bool) : (fuel : Nat) → Parse Piece
  | 0 => refuseNext none
  | fuel + 1 => do
    let s ← backquotedText quoted ((← upcoming).length + 1)
    return .output quoted (← within s (optionalList fuel))

/-- Reads a word that must stand in front. -/
def word : (fuel : Nat) → Parse Word
  | 0 => refuseNext none
  | fuel + 1 => do
    blanks
    match ← upcoming with
    | [] => refuseNext none
    | c :: _ => if endsWord c then refuseNext none else pieces fuel

/-- Reads the redirection of a sign that stands in front. -/
def redirection (sign : RedirectionSign) : (fuel : Nat) → Parse Redirection
  | 0 => refuseNext none
  | fuel + 1 => do
    skip sign.length
    blanks
    let before ← upcoming
    let target ← word fuel
    match sign.direction with
    | .document _ =>
      let written := before.take (before.length - (← upcoming).length)
      let number ← awaitDocument sign.stripped written target
      return .mk sign.stream (.document number) []
    | direction => return .mk sign.stream direction target

/-- Reads redirections. -/
def redirections : (fuel : Nat) → Parse (List Redirection)
  | 0 => refuseNext none
  | fuel + 1 => do
    blanks
    match redirectionSign (← upcoming) with
    | none => return []
    | some sign =>
      let r ← redirection sign fuel
      return r :: (← redirections fuel)

/-- Reads the parts of a simple command: assignments, words and redirections. -/
def simpleParts : (fuel : Nat) → (first : Bool) →
    Parse (List (String × Word) × List Word × List Redirection)
  | 0, _ => refuseNext none
  | fuel + 1, first => do
    blanks
    if first then expandAliases false maxAliases else expandExtended
    blanks
    match ← upcoming with
    | [] => return ([], [], [])
    | c :: rest =>
      match redirectionSign (c :: rest) with
      | some sign =>
        let r ← redirection sign fuel
        let (as, ws, rs) ← simpleParts fuel first
        return (as, ws, r :: rs)
      | none =>
        if endsWord c then return ([], [], [])
        else
          let w ← pieces fuel
          match if first then assignment? w else none with
          | some a =>
            let (as, ws, rs) ← simpleParts fuel true
            return (a :: as, ws, rs)
          | none =>
            let (as, ws, rs) ← simpleParts fuel false
            return (as, w :: ws, rs)

/-- Reads a command. -/
def command : (fuel : Nat) → Parse Script
  | 0 => refuseNext none
  | fuel + 1 => do
    expandAliases true maxAliases
    let s ← upcoming
    let line := (← get).line
    match definition? s with
    | some (name, n) =>
      skip n
      if !isName name.toList || specialNames.contains name then refuse .badFunction
      skipLines (s.length + 1)
      return .define name (← command fuel)
    | none =>
      match reservedOf s with
      | none =>
        match s with
        | '(' :: _ =>
          skip 1
          let body ← list fuel
          expectMark ")"
          closed line fuel (.apart body)
        | _ =>
          match ← simpleParts fuel true with
          | ([], [], []) => refuseNext none
          | (as, ws, rs) => return .simple line as ws rs
      | some w =>
        if w = "\x7b" then
          skip 1
          let body ← list fuel
          expectReserved "\x7d"
          closed line fuel body
        else if w = "if" then
          skip 2
          closed line fuel (← branches fuel)
        else if w = "while" || w = "until" then
          skip 5
          let condition ← list fuel
          expectReserved "do"
          let body ← list fuel
          expectReserved "done"
          closed line fuel (.loop (w = "while") condition body)
        else if w = "for" then
          skip 3
          closed line fuel (.numbered line (← eachLoop fuel))
        else if w = "case" then
          skip 4
          blanks
          if (← upcoming).head?.all endsWord then refuseNext (some "word")
          let subject ← word fuel
          skipLines (s.length + 1)
          expectReserved "in"
          let arms ← caseArms fuel
          closed line fuel (.numbered line (.select subject arms))
        else refuseNext none

/-- A compound command that begins on a line, with the redirections behind it. -/
def closed (line : Nat) : (fuel : Nat) → Script → Parse Script
  | 0, _ => refuseNext none
  | fuel + 1, s => do
    match ← redirections fuel with
    | [] => return s
    | rs => return .numbered line (.redirected s rs)

/-- Reads a conditional from behind its first word. -/
def branches : (fuel : Nat) → Parse Script
  | 0 => refuseNext none
  | fuel + 1 => do
    let condition ← list fuel
    expectReserved "then"
    let yes ← list fuel
    blanks
    match reservedOf (← upcoming) with
    | some "elif" =>
      skip 4
      return .branch condition yes (← branches fuel)
    | some "else" =>
      skip 4
      let no ← list fuel
      expectReserved "fi"
      return .branch condition yes no
    | _ =>
      expectReserved "fi"
      return .branch condition yes .nothing

/-- Reads a loop over words from behind its first word. -/
def eachLoop : (fuel : Nat) → Parse Script
  | 0 => refuseNext none
  | fuel + 1 => do
    blanks
    let name ← takeChars isNameChar
    if !isName name then refuse .badVariable
    skipLines ((← upcoming).length + 1)
    let words ←
      if reservedOf (← upcoming) = some "in" then do
        skip 2
        pure (some (← wordsOnLine fuel))
      else pure none
    blanks
    if markOf (← upcoming) = some ";" then skip 1
    else if words.isSome && (← upcoming).head? ≠ some '\n' then refuseNext none
    skipLines ((← upcoming).length + 1)
    expectReserved "do"
    let body ← list fuel
    expectReserved "done"
    return .each (String.ofList name) words body

/-- Reads words up to the end of the line or a mark. -/
def wordsOnLine : (fuel : Nat) → Parse (List Word)
  | 0 => refuseNext none
  | fuel + 1 => do
    blanks
    match ← upcoming with
    | [] => return []
    | c :: _ =>
      if endsWord c then return []
      else
        let w ← pieces fuel
        return w :: (← wordsOnLine fuel)

/-- Reads the arms of a selection up to its end. -/
def caseArms : (fuel : Nat) → Parse (List (List Word × Script))
  | 0 => refuseNext none
  | fuel + 1 => do
    skipLines ((← upcoming).length + 1)
    if reservedOf (← upcoming) = some "esac" then
      skip 4
      return []
    else
      if markOf (← upcoming) = some "(" then skip 1
      let patterns ← casePatterns fuel
      expectMark ")"
      let body ← optionalList fuel
      blanks
      if markOf (← upcoming) = some ";;" then
        skip 2
        return (patterns, body) :: (← caseArms fuel)
      else
        skipLines ((← upcoming).length + 1)
        if reservedOf (← upcoming) = some "esac" then
          skip 4
          return [(patterns, body)]
        else refuseNext (some (shown ";;"))

/-- Reads patterns with bars between them. -/
def casePatterns : (fuel : Nat) → Parse (List Word)
  | 0 => refuseNext none
  | fuel + 1 => do
    let w ← word fuel
    blanks
    if markOf (← upcoming) = some "|" then
      skip 1
      return w :: (← casePatterns fuel)
    else return [w]

/-- Reads commands with bars between them. -/
def pipes : (fuel : Nat) → Parse (List Script)
  | 0 => refuseNext none
  | fuel + 1 => do
    let s ← command fuel
    blanks
    if markOf (← upcoming) = some "|" then
      skip 1
      skipLines ((← upcoming).length + 1)
      return s :: (← pipes fuel)
    else return [s]

/-- Reads a pipeline, which an exclamation mark may negate. -/
def pipeline : (fuel : Nat) → Parse Script
  | 0 => refuseNext none
  | fuel + 1 => do
    expandAliases true maxAliases
    let negated := reservedOf (← upcoming) = some "!"
    if negated then skip 1
    let s := match ← pipes fuel with
      | [s] => s
      | parts => .pipeline parts
    return if negated then .negated s else s

/-- Reads pipelines joined by marks that make one depend on the outcome of those in front. -/
def chain : (fuel : Nat) → Script → Parse Script
  | 0, _ => refuseNext none
  | fuel + 1, a => do
    blanks
    match markOf (← upcoming) with
    | some "&&" =>
      skip 2
      skipLines ((← upcoming).length + 1)
      chain fuel (.both a (← pipeline fuel))
    | some "||" =>
      skip 2
      skipLines ((← upcoming).length + 1)
      chain fuel (.either a (← pipeline fuel))
    | _ => return a

/-- Reads commands up to the end of the line, or where lines do not matter up to a word or mark that
ends a list. -/
def commands (lines : Bool) : (fuel : Nat) → Parse Script
  | 0 => refuseNext none
  | fuel + 1 => do
    let first ← pipeline fuel
    let s ← chain fuel first
    blanks
    let sequel (s : Script) : Parse Script := do
      if lines then skipLines ((← upcoming).length + 1) else blanks
      let rest ← upcoming
      let ends := match rest with
        | [] => true
        | '\n' :: _ => true
        | _ =>
          markOf rest = some ")" || markOf rest = some ";;" ||
            (reservedOf rest).any closers.contains
      if ends then return s else return .sequence s (← commands lines fuel)
    match ← upcoming with
    | '\n' :: _ => if lines then sequel s else return s
    | rest =>
      match markOf rest with
      | some ";" =>
        skip 1
        sequel s
      | some "&" =>
        skip 1
        sequel (.background s)
      | _ => return s

/-- Reads a list of at least one command; at the end of the text it is what follows that is missed.
-/
def list : (fuel : Nat) → Parse Script
  | 0 => refuseNext none
  | fuel + 1 => do
    skipLines ((← upcoming).length + 1)
    if (← upcoming).isEmpty then return .nothing else commands true fuel

/-- Reads a list that may be empty. -/
def optionalList : (fuel : Nat) → Parse Script
  | 0 => refuseNext none
  | fuel + 1 => do
    skipLines ((← upcoming).length + 1)
    let rest ← upcoming
    let ends := rest.isEmpty || markOf rest = some ")" || markOf rest = some ";;" ||
      (reservedOf rest).any closers.contains
    if ends then return .nothing else commands true fuel

end

/-- The pieces of a document, and the documents that there are with those in its scripts. -/
def Document.pieces (d : Document) (documents : Array Document) :
    Except SyntaxFault (Word × Array Document) :=
  if d.quoted then .ok ([.text true d.text], documents)
  else
    match (quotedPieces true (16 * d.text.length + 64)).run { rest := d.text, documents } with
    | .ok (w, i) => .ok (w, i.documents)
    | .error (_, fault) => .error fault

/-- The commands of the next line that has any, and the text behind it; none at the end. -/
def readLine (i : Input) : Except (Nat × SyntaxFault) (Option (Script × Input)) := do
  let aliased := (i.aliases.map fun a => a.2.length).foldl (· + ·) 0
  let fuel := 16 * (i.rest.length + maxAliases * aliased) + 64
  let read : Parse (Option Script) := do
    skipLines (i.rest.length + 1)
    match ← upcoming with
    | [] => return none
    | _ =>
      let s ← commands false fuel
      match ← upcoming with
      | [] => return some s
      | '\n' :: _ =>
        endLine
        return some s
      | _ => refuseNext none
  let (s, i) ← read.run i
  return s.map fun s => (s, i)

end Assay.Shell
