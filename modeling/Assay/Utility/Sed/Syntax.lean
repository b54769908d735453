import Assay.Utility.Basic
import Assay.Utility.Expression.Parser

/-!
# Scripts of `sed`

A script is a list of commands, each with addresses that say for which lines it is carried out. It
is read to a flat list, in which blocks and jumps name commands by their places.
-/

namespace Assay.Sed

open Expression Shell

/-- Which lines are meant. -/
inductive Address where
  | line (n : Nat)
  | last
  /-- Lines in which something is found; without an automaton what was looked for before. -/
  | found (a : Option Automaton)
  /-- Every so many lines from one on. -/
  | every (first step : Nat)
  | zero

/-- Where a range of lines ends. -/
inductive RangeEnd where
  | address (a : Address)
  /-- So many lines behind the first one. -/
  | behind (n : Nat)
  /-- At the next line whose number is a multiple. -/
  | multiple (n : Nat)

/-- For which lines a command is carried out. -/
structure Selector where
  start : Option Address := none
  stop : Option RangeEnd := none
  inverted : Bool := false

/-- How the letters of a replacement are changed. -/
inductive Casing where
  | upper
  | lower
  | upperNext
  | lowerNext
  | keep
deriving DecidableEq

/-- A part of a replacement. -/
inductive ReplacementPart where
  | text (bs : List UInt8)
  /-- What a group matched; number zero is the whole match. -/
  | group (n : Nat)
  | casing (c : Casing)

/-- A replacement: what is replaced, by what, and which of several matches. -/
structure Substitution where
  automaton : Option Automaton
  parts : List ReplacementPart
  everywhere : Bool := false
  count : Nat := 1
  printed : Bool := false
  lines : Bool := false
  file : Option String := none

/-- What a command does. -/
inductive Action where
  /-- Goes on behind a block, unless the command is carried out. -/
  | block (stop : Nat)
  | nothing
  | append (text : List UInt8)
  | insert (text : List UInt8)
  | change (text : List UInt8)
  /-- A jump to a label, or to the end if it has no name: always, or depending on whether something
  was replaced. -/
  | jump (condition : Option Bool) (label : String)
  | label (name : String)
  | delete
  | deleteLine
  | name
  | get (add : Bool)
  | hold (add : Bool)
  | exchange
  | unambiguous (width : Option Nat)
  | next (add : Bool)
  | print
  | printLine
  | quit (printed : Bool) (status : Nat)
  | read (file : String)
  | readLine (file : String)
  | write (file : String)
  | writeLine (file : String)
  | substitute (s : Substitution)
  | exchangeOctets (pairs : List (UInt8 × UInt8))
  | number
  | clear

/-- A command. -/
structure Command where
  selector : Selector
  action : Action

/-- How a script is read: whether expressions are extended. -/
structure ReadStyle where
  extended : Bool

/-- A text to be read: what is left of it and how many octets were read. -/
structure Source where
  rest : List UInt8
  place : Nat := 0

/-- Readers; a fault comes with the place at which it was found. -/
abbrev Reader := StateT Source (Except (Nat × String))

/-- Refuses the script. -/
def refuse {α : Type} (message : String) : Reader α := do
  throw ((← get).place, message)

/-- The next octet, which is gone over. -/
def take? : Reader (Option UInt8) := do
  match (← get).rest with
  | [] => return none
  | b :: rest =>
    modify fun s => { rest, place := s.place + 1 }
    return some b

/-- The next octet. -/
def peek? : Reader (Option UInt8) := do
  return (← get).rest.head?

/-- Goes over so many octets. -/
def skip (n : Nat) : Reader Unit :=
  modify fun s => { rest := s.rest.drop n, place := s.place + min n s.rest.length }

/-- Takes the octets in front that have a property. -/
def takeBytes (p : UInt8 → Bool) : Reader (List UInt8) := do
  let bs := (← get).rest.takeWhile p
  skip bs.length
  return bs

/-- Whether an octet is a blank. -/
def isBlankByte (b : UInt8) : Bool :=
  isGap b

/-- Goes over blanks within a line. -/
def skipSpace : Reader Unit := do
  let _ ← takeBytes fun b => isGap b && b ≠ 10

/-- Goes over blanks, line breaks and the marks between commands. -/
def skipBetween : Reader Unit := do
  let _ ← takeBytes fun b => isGap b || b = 59

/-- A text of octets. -/
def textOf (bs : List UInt8) : String :=
  Text.decodeLossy ⟨bs.toArray⟩

/-- The number in front. -/
def number : Reader Nat := do
  let ds ← takeBytes fun b => 48 ≤ b && b ≤ 57
  return ds.foldl (fun n d => 10 * n + (d.toNat - 48)) 0

/-- The rest of a bracket, up to the sign that closes it; none if nothing does. `inner` is the sign
of a class that is open, and `first` says whether a closing sign would be a member. -/
def restOfBracket (inner : Option UInt8) (first : Bool) :
    List UInt8 → Option (List UInt8 × List UInt8)
  | [] | 10 :: _ => none
  | [b] => if b = 93 && inner.isNone && !first then some ([b], []) else none
  | b :: c :: rest =>
    let behind (part : List UInt8) (more : Option (List UInt8 × List UInt8)) :
        Option (List UInt8 × List UInt8) :=
      more.map fun (front, rest) => (part ++ front, rest)
    match inner with
    | some sign =>
      if b = sign && c = 93 then behind [b, c] (restOfBracket none false rest)
      else behind [b] (restOfBracket inner false (c :: rest))
    | none =>
      if b = 93 && !first then some ([b], c :: rest)
      else if b = 91 && (c = 46 || c = 58 || c = 61) then
        behind [b, c] (restOfBracket (some c) false rest)
      else if b = 92 && c = 110 then behind [10] (restOfBracket none false rest)
      else behind [b] (restOfBracket none false (c :: rest))

/-- The text up to a mark, with the mark itself behind backslashes; none if it does not end. In
expressions a letter for a line break is replaced. -/
def upToMark (mark : UInt8) (expression : Bool) : (fuel : Nat) → Reader (Option (List UInt8))
  | 0 => return none
  | fuel + 1 => do
    match ← peek? with
    | none | some 10 => return none
    | some b =>
      skip 1
      if b = mark then return some []
      else
        let front ←
          if b = 91 && expression then do
            let source ← get
            let sign : List UInt8 := if source.rest.head? = some 94 then [94] else []
            let rest := source.rest.drop sign.length
            match restOfBracket none true rest with
            | some (part, behind) =>
              skip (source.rest.length - behind.length)
              pure (some (b :: (sign ++ part)))
            | none =>
              let _ ← takeBytes (· ≠ 10)
              pure none
          else if b ≠ 92 then pure (some [b])
          else match ← take? with
            | none => pure none
            | some c =>
              if c = 110 && expression && mark ≠ 110 then pure (some [10])
              else if c = 10 then pure (some (if expression then [10] else [92, 10]))
              else if c = mark && !(c = 38 && !expression) then pure (some [c])
              else pure (some [92, c])
        match front with
        | none => return none
        | some front => return (← upToMark mark expression fuel).map (front ++ ·)

/-- An octet that is written by its number or as a control character, from behind the backslash:
the octet, and what is behind it. -/
def numbered? : List UInt8 → Option (UInt8 × List UInt8)
  | [] => none
  | c :: rest =>
    let digits (base most : Nat) : Option (UInt8 × List UInt8) :=
      let value (b : UInt8) : Option Nat :=
        let n := (small b).toNat
        (if 48 ≤ n && n ≤ 57 then some (n - 48)
          else if 97 ≤ n && n ≤ 102 then some (n - 87) else none).filter (· < base)
      let ds := ((rest.take most).map value).takeWhile Option.isSome |>.reduceOption
      if ds.isEmpty then none
      else some (UInt8.ofNat (ds.foldl (fun n d => base * n + d) 0), rest.drop ds.length)
    match Char.ofNat c.toNat, rest with
    | 'x', _ => digits 16 2
    | 'o', _ => digits 8 3
    | 'd', _ => digits 10 3
    | 'c', b :: rest => some (capital b ^^^ 64, rest)
    | _, _ => none

/-- An expression with the octets that are written by numbers or as control characters. -/
def withOctets : (fuel : Nat) → List UInt8 → List UInt8
  | 0, s => s
  | fuel + 1, 92 :: c :: rest =>
    match numbered? (c :: rest) with
    | some (b, rest) => (if b = 92 then [92, 92] else [b]) ++ withOctets fuel rest
    | none =>
      match controlEscape? c with
      | some b => b :: withOctets fuel rest
      | none => 92 :: c :: withOctets fuel rest
  | fuel + 1, b :: rest => b :: withOctets fuel rest
  | _ + 1, [] => []

/-- The automaton of an expression; an empty one is none. -/
def automaton (style : ReadStyle) (folded : Bool) (bs : List UInt8) :
    Reader (Option Automaton) := do
  if bs.isEmpty then return none
  match compile { extended := style.extended } folded (withOctets bs.length bs) with
  | .ok a => return some a
  | .error fault => refuse fault.message

/-- An address, if there is one. -/
def address? (style : ReadStyle) (fuel : Nat) : Reader (Option Address) := do
  match ← peek? with
  | none => return none
  | some b =>
    if 48 ≤ b && b ≤ 57 then
      let n ← number
      skipSpace
      if (← peek?) = some 126 then
        skip 1
        let step ← number
        return some (if step > 0 then .every n step else if n = 0 then .zero else .line n)
      else return some (if n = 0 then .zero else .line n)
    else if b = 36 then
      skip 1
      return some .last
    else if b = 47 || b = 92 then
      skip 1
      let mark ← if b = 47 then pure (some b) else take?
      match mark with
      | none => refuse "unterminated address regex"
      | some mark =>
        match ← upToMark mark true fuel with
        | none => refuse "unterminated address regex"
        | some bs =>
          let flags ← takeBytes fun b => b = 73 || b = 77
          return some (.found (← automaton style (flags.contains 73) bs))
    else return none

/-- The addresses in front of a command. -/
def selector (style : ReadStyle) (fuel : Nat) : Reader Selector := do
  match ← address? style fuel with
  | none => return {}
  | some start =>
    let refuseNext (message : String) : Reader Unit := do
      skipSpace
      skip 1
      refuse message
    skipSpace
    let stop ← if (← peek?) ≠ some 44 then pure none else do
      skip 1
      skipSpace
      let stop ← match ← peek? with
        | some 43 => do
          skip 1
          pure (some (RangeEnd.behind (← number)))
        | some 126 => do
          skip 1
          pure (some (RangeEnd.multiple (← number)))
        | _ => do
          pure ((← address? style fuel).map RangeEnd.address)
      if stop.isNone then refuseNext "unexpected \x60,'"
      pure stop
    if (start matches .zero) && !(stop matches some (.address (.found _))) then
      refuseNext "invalid usage of line address 0"
    return { start := some start, stop }

/-- Goes over what may stand behind a command. -/
def endCommand : Reader Unit := do
  skipSpace
  match ← peek? with
  | none | some 10 | some 59 => skip 1
  | some 125 | some 35 => pure ()
  | some _ =>
    skip 1
    refuse "extra characters after command"

/-- The name of a label or a file, up to the end of the line. -/
def restOfLine : Reader (List UInt8) := do
  skipSpace
  let bs ← takeBytes (· ≠ 10)
  skip 1
  return bs

/-- The name of a label. -/
def labelName : Reader String := do
  skipSpace
  let bs ← takeBytes fun b => b ≠ 59 && b ≠ 125 && !isGap b
  return textOf bs

/-- The lines of a text that a command puts out, up to one that does not go on. -/
def textLines : (fuel : Nat) → Reader (List UInt8)
  | 0 => return []
  | fuel + 1 => do
    match ← take? with
    | none => return []
    | some 10 => return []
    | some 92 =>
      match numbered? (← get).rest with
      | some (b, rest) =>
        skip ((← get).rest.length - rest.length)
        return b :: (← textLines fuel)
      | none =>
        match ← take? with
        | none => return []
        | some c => return (controlEscape? c).getD c :: (← textLines fuel)
    | some b => return b :: (← textLines fuel)

/-- The text that a command puts out. A backslash in front of it lets it begin on the next line, or
with blanks. -/
def outputText (fuel : Nat) : Reader (List UInt8) := do
  skipSpace
  match (← get).rest with
  | [] => refuse "expected \\ after \x60a', \x60c' or \x60i'"
  | [92] =>
    skip 1
    return []
  | 92 :: b :: _ =>
    skip (if b = 10 then 2 else 1)
    let front ← if isGap b && b ≠ 10 then do
        let bs ← takeBytes fun b => isGap b && b ≠ 10
        pure bs
      else match controlEscape? b, (← get).rest with
        | some _, c :: _ =>
          -- The letter right behind the backslash stands for itself.
          if b = 10 then pure [] else do
            skip 1
            pure [c]
        | _, _ => pure []
    return front ++ (← textLines fuel) ++ [10]
  | _ => return (← textLines fuel) ++ [10]

/-- The parts of a replacement. -/
def replacementParts (groups : Nat) :
    (fuel : Nat) → List UInt8 → Except String (List ReplacementPart)
  | 0, _ => .ok []
  | _ + 1, [] => .ok []
  | fuel + 1, 38 :: rest => do return .group 0 :: (← replacementParts groups fuel rest)
  | fuel + 1, 92 :: c :: rest => do
    if let some (b, rest) := numbered? (c :: rest) then
      return .text [b] :: (← replacementParts groups fuel rest)
    let more ← replacementParts groups fuel rest
    if 48 ≤ c && c ≤ 57 then
      let n := c.toNat - 48
      if n > groups then
        throw ("invalid reference \\" ++ toString n ++ " on \x60s' command's RHS")
      return .group n :: more
    else
      match Char.ofNat c.toNat with
      | 'U' => return .casing .upper :: more
      | 'L' => return .casing .lower :: more
      | 'u' => return .casing .upperNext :: more
      | 'l' => return .casing .lowerNext :: more
      | 'E' => return .casing .keep :: more
      | _ => return .text [(controlEscape? c).getD c] :: more
  | fuel + 1, b :: rest => do
    match ← replacementParts groups fuel rest with
    | .text bs :: more => return .text (b :: bs) :: more
    | more => return .text [b] :: more

/-- The flags of a replacement, up to the end of the command. -/
def substitutionFlags :
    (fuel : Nat) → (folded counted : Bool) → Substitution → Reader (Substitution × Bool)
  | 0, folded, _, s => return (s, folded)
  | fuel + 1, folded, counted, s => do
    match ← peek? with
    | none => return (s, folded)
    | some b =>
      match Char.ofNat b.toNat with
      | 'g' =>
        skip 1
        if s.everywhere then refuse "multiple \x60g' options to \x60s' command"
        substitutionFlags fuel folded counted { s with everywhere := true }
      | 'p' =>
        skip 1
        if s.printed then refuse "multiple \x60p' options to \x60s' command"
        substitutionFlags fuel folded counted { s with printed := true }
      | 'i' | 'I' =>
        skip 1
        substitutionFlags fuel true counted s
      | 'm' | 'M' =>
        skip 1
        substitutionFlags fuel folded counted { s with lines := true }
      | 'w' =>
        skip 1
        let file ← restOfLine
        if file.isEmpty then refuse "missing filename in r/R/w/W commands"
        return ({ s with file := some (textOf file) }, folded)
      | '\x7d' | '#' => return (s, folded)
      | '\n' | ';' =>
        skip 1
        return (s, folded)
      | c =>
        if c.isDigit then
          let n ← number
          if counted then refuse "multiple number options to \x60s' command"
          if n = 0 then refuse "number option to \x60s' command may not be zero"
          substitutionFlags fuel folded true { s with count := n }
        else if isGap b then
          skip 1
          substitutionFlags fuel folded counted s
        else
          skip 1
          refuse "unknown option to \x60s'"

/-- The replacement of a command, from behind its letter. -/
def substitution (style : ReadStyle) (fuel : Nat) : Reader Substitution := do
  let unterminated {α : Type} : Reader α := refuse "unterminated \x60s' command"
  match ← take? with
  | none | some 10 | some 92 => unterminated
  | some mark =>
    match ← upToMark mark true fuel with
    | none => unterminated
    | some pattern =>
      match ← upToMark mark false fuel with
      | none => unterminated
      | some replacement =>
        let (s, folded) ← substitutionFlags fuel false false { automaton := none, parts := [] }
        let automaton ← automaton style folded pattern
        match replacementParts ((automaton.map Automaton.groups).getD 9)
            (replacement.length + 1) replacement with
        | .ok parts => return { s with automaton, parts }
        | .error message => refuse message

/-- The octets that a text of `y` writes. -/
def exchangedBytes : List UInt8 → Except String (List UInt8)
  | [] => .ok []
  | 92 :: c :: rest => do
    let more ← exchangedBytes rest
    if c = 92 then return 92 :: more
    else match controlEscape? c with
      | some e => return e :: more
      | none => return 92 :: c :: more
  | b :: rest => do return b :: (← exchangedBytes rest)

/-- The pairs of a command `y`, from behind its letter. -/
def octetPairs (fuel : Nat) : Reader (List (UInt8 × UInt8)) := do
  let unterminated {α : Type} : Reader α := refuse "unterminated \x60y' command"
  match ← take? with
  | none | some 10 | some 92 => unterminated
  | some mark =>
    match ← upToMark mark false fuel with
    | none => unterminated
    | some a =>
      match ← upToMark mark false fuel with
      | none => unterminated
      | some b =>
        match exchangedBytes a, exchangedBytes b with
        | .ok a, .ok b =>
          if a.length ≠ b.length then refuse "strings for \x60y' command are different lengths"
          endCommand
          return a.zip b
        | .error message, _ | _, .error message => refuse message

/-- The status behind a command that ends the script. -/
def exitStatus : Reader Nat := do
  skipSpace
  let n ← number
  endCommand
  return n

/-- The name of a file behind a command. -/
def fileName : Reader String := do
  let bs ← restOfLine
  if bs.isEmpty then refuse "missing filename in r/R/w/W commands"
  return textOf bs

/-- Reads the commands up to the end. `blocks` are the places of the blocks that are open, with the
places in the text where they began; `done` is what has been read, from behind. -/
def commands (style : ReadStyle) :
    (fuel : Nat) → (blocks : List Nat) → (done : Array Command) → Reader (Array Command)
  | 0, _, done => return done
  | fuel + 1, blocks, done => do
    skipBetween
    match ← peek? with
    | none =>
      if blocks.isEmpty then return done
      else throw (0, "unmatched \x60\x7b'")
    | some 35 =>
      let _ ← takeBytes (· ≠ 10)
      commands style fuel blocks done
    | some _ =>
      let s ← selector style fuel
      skipSpace
      let inverted := (← peek?) = some 33
      if inverted then
        skip 1
        skipSpace
        if (← peek?) = some 33 then
          skip 1
          refuse "multiple \x60!'s"
      let s := { s with inverted }
      let goOn (a : Action) : Reader (Array Command) :=
        commands style fuel blocks (done.push ⟨s, a⟩)
      let plain (a : Action) : Reader (Array Command) := do
        endCommand
        goOn a
      let single : Reader Unit := do
        if s.stop.isSome then refuse "command only uses one address"
      match ← take? with
      | none => refuse "missing command"
      | some b =>
        match Char.ofNat b.toNat with
        | '\x7b' => commands style fuel (done.size :: blocks) (done.push ⟨s, .block 0⟩)
        | '\x7d' =>
          if s.start.isSome then refuse "\x7d doesn't want any addresses"
          match blocks with
          | [] => refuse "unexpected \x60\x7d'"
          | start :: blocks =>
            endCommand
            let done := done.modify start ({ · with action := .block done.size })
            commands style fuel blocks done
        | '=' => plain .number
        | 'a' =>
          let text ← outputText fuel
          goOn (.append text)
        | 'i' =>
          let text ← outputText fuel
          goOn (.insert text)
        | 'c' =>
          let text ← outputText fuel
          goOn (.change text)
        | ':' =>
          if s.start.isSome then refuse ": doesn't want any addresses"
          let name ← labelName
          if name.isEmpty then refuse "\":\" lacks a label"
          goOn (.label name)
        | 'b' =>
          let name ← labelName
          goOn (.jump none name)
        | 't' =>
          let name ← labelName
          goOn (.jump (some true) name)
        | 'T' =>
          let name ← labelName
          goOn (.jump (some false) name)
        | 'd' => plain .delete
        | 'D' => plain .deleteLine
        | 'F' => plain .name
        | 'g' => plain (.get false)
        | 'G' => plain (.get true)
        | 'h' => plain (.hold false)
        | 'H' => plain (.hold true)
        | 'x' => plain .exchange
        | 'l' =>
          skipSpace
          let ds ← takeBytes fun b => 48 ≤ b && b ≤ 57
          let width := if ds.isEmpty then none else
            some (ds.foldl (fun n d => 10 * n + (d.toNat - 48)) 0)
          plain (.unambiguous width)
        | 'n' => plain (.next false)
        | 'N' => plain (.next true)
        | 'p' => plain .print
        | 'P' => plain .printLine
        | 'q' =>
          single
          let n ← exitStatus
          goOn (.quit true n)
        | 'Q' =>
          single
          let n ← exitStatus
          goOn (.quit false n)
        | 'r' =>
          let f ← fileName
          goOn (.read f)
        | 'R' =>
          let f ← fileName
          goOn (.readLine f)
        | 'w' =>
          let f ← fileName
          goOn (.write f)
        | 'W' =>
          let f ← fileName
          goOn (.writeLine f)
        | 's' =>
          let sub ← substitution style fuel
          goOn (.substitute sub)
        | 'y' =>
          let pairs ← octetPairs fuel
          goOn (.exchangeOctets pairs)
        | 'z' => plain .clear
        | 'v' =>
          let _ ← labelName
          plain .nothing
        | '#' =>
          if s.start.isSome then refuse "comments don't accept any addresses"
          let _ ← takeBytes (· ≠ 10)
          commands style fuel blocks done
        | '\n' | ';' => refuse "missing command"
        | c => refuse ("unknown command: \x60" ++ String.singleton c ++ "'")

/-- The commands of a script; a fault comes with the place at which it was found. -/
def parse (extended : Bool) (script : List UInt8) : Except (Nat × String) (Array Command) := do
  let (cs, _) ← (commands { extended } (4 * script.length + 16) [] #[]).run { rest := script }
  return cs

/-- The place of a label. -/
def labelPlace? (cs : Array Command) (name : String) : Option Nat :=
  if name.isEmpty then some cs.size
  else cs.findIdx? fun c => match c.action with
    | .label n => n = name
    | _ => false

/-- A label to which a command jumps although there is none. -/
def missingLabel? (cs : Array Command) : Option String :=
  cs.toList.findSome? fun c => match c.action with
    | .jump _ name => if (labelPlace? cs name).isNone then some name else none
    | _ => none

end Assay.Sed
