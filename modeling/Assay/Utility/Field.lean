import Assay.Utility.Sort

/-!
# Columns of lines

`cut` prints parts of lines, which are told by the numbers of their octets or fields. `paste` puts
lines of several files side by side.
-/

namespace Assay.Shell

open Machine Host

/-! ## Cutting -/

/-- Numbers from one to another one, or without end. -/
structure Span where
  first : Nat
  last : Option Nat

/-- Whether a number is within one of some spans. -/
def isWithin (spans : List Span) (n : Nat) : Bool :=
  spans.any fun s => s.first ≤ n && s.last.all (n ≤ ·)

/-- Whether a span begins at a number that does not follow another one. -/
def beginsSpan (spans : List Span) (n : Nat) : Bool :=
  isWithin spans n && (n = 1 || !isWithin spans (n - 1) ||
    (spans.any (·.first = n) && !spans.any fun s => s.first < n && s.last.all (n ≤ ·)))

/-- What numbers tell. -/
inductive Counted where
  | octets
  | fields
deriving DecidableEq

/-- The spans that a list writes; an error is a message. -/
def spansOf (kind : Counted) (list : String) : Except String (List Span) :=
  let fromOne := if kind = .fields then "fields are numbered from 1"
    else "byte/character positions are numbered from 1"
  let invalid (s : List Char) : String :=
    (if kind = .fields then "invalid field value " else "invalid byte/character position ") ++
      quotedName (String.ofList s)
  let tooLarge (s : List Char) : String :=
    (if kind = .fields then "field number " else "byte/character offset ") ++
      quotedName (String.ofList s) ++ " is too large"
  let number (s : List Char) : Except String Nat :=
    match countIn s with
    | some (n, []) => if n < 18446744073709551615 then .ok n else .error (tooLarge s)
    | some (_, rest) => .error (invalid rest)
    | none => .error (invalid s)
  let parts := (list.toList.map fun c => if c = ' ' || c = '\t' then ',' else c)
  (Text.splitAt ',' parts).mapM fun part => do
    let first := part.takeWhile (· ≠ '-')
    match part.drop first.length with
    | [] =>
      if part.isEmpty then throw fromOne
      let n ← number part
      if n = 0 then throw fromOne
      return ⟨n, some n⟩
    | _ :: last =>
      if last.contains '-' then
        throw (if kind = .fields then "invalid field range" else "invalid byte or character range")
      if first.isEmpty && last.isEmpty then throw "invalid range with no endpoint: -"
      let a ← if first.isEmpty then pure 1 else number first
      if a = 0 then throw fromOne
      if last.isEmpty then return ⟨a, none⟩
      let b ← number last
      if b < a then throw "invalid decreasing range"
      return ⟨a, some b⟩

/-- How lines are cut. -/
structure Cutting where
  kind : Counted
  spans : List Span
  complement : Bool := false
  mark : UInt8 := 9
  /-- What is put between parts, if not the mark. -/
  between : Option (List UInt8) := none
  /-- Whether lines without the mark are left out. -/
  marked : Bool := false

/-- The fields of a line. -/
def fieldsOf (mark : UInt8) (line : List UInt8) : List (List UInt8) :=
  line.foldr
    (fun b fields =>
      if b = mark then [] :: fields
      else match fields with
        | f :: rest => (b :: f) :: rest
        | [] => [[b]])
    [[]]

/-- What is printed of a line, if anything. -/
def Cutting.apply (c : Cutting) (line : List UInt8) : Option (List UInt8) :=
  let chosen (n : Nat) : Bool := isWithin c.spans n != c.complement
  match c.kind with
  | .fields =>
    if !line.contains c.mark then if c.marked then none else some line
    else
      let fields := (fieldsOf c.mark line).zipIdx 1
      some ((c.between.getD [c.mark]).intercalate
        ((fields.filter fun f => chosen f.2).map Prod.fst))
  | .octets =>
    let octets := (line.zipIdx 1).filter fun b => chosen b.2
    match c.between with
    | none => some (octets.map Prod.fst)
    | some sep =>
      let starts (n : Nat) : Bool :=
        if c.complement then !chosen (n - 1) || n = 1 else beginsSpan c.spans n
      some ((octets.zipIdx).flatMap fun ((b, n), i) =>
        if i > 0 && starts n then sep ++ [b] else [b])

/-- The lines that are cut. If fields end where lines do, all lines are fields of one. -/
def Cutting.lines (c : Cutting) (finish : UInt8) (bytes : List UInt8) : List (List UInt8) :=
  if c.kind = .fields && c.mark = finish && !bytes.isEmpty then
    [if bytes.getLast? = some finish then bytes.dropLast else bytes]
  else linesEndedBy finish bytes

/-- How options say that lines are cut; an error is a message. -/
def cuttingOf (o : Options) : Except String Cutting := do
  let lists := o.letters.filter fun l => "bcf".toList.contains l.1
  match lists with
  | [] => throw "you must specify a list of bytes, characters, or fields"
  | _ :: _ :: _ => throw "only one list may be specified"
  | [(letter, list)] =>
    let kind : Counted := if letter = 'f' then .fields else .octets
    let mark ← match o.value? 'd' with
      | none => pure 9
      | some v =>
        match v.toUTF8.toList with
        | [] => pure 0
        | [b] => pure b
        | _ => throw "the delimiter must be a single character"
    if kind ≠ .fields then
      if o.has 'd' then
        throw "an input delimiter may be specified only when operating on fields"
      if o.has 's' then
        throw "suppressing non-delimited lines makes sense\n\tonly when operating on fields"
    let spans ← spansOf kind list
    return {
      kind, spans, mark
      complement := o.has 'C'
      between := (o.value? 'O').map fun v => if v.isEmpty then [0] else v.toUTF8.toList
      marked := o.has 's' }

/-- `cut` prints parts of lines. -/
def cut : Utility :=
  withOptions "cut" "nszC" "bcfdO" 1
    (fun o => do
      match cuttingOf o with
      | .error message =>
        misused "cut" message
        return 1
      | .ok c =>
        let finish : UInt8 := if o.has 'z' then 0 else 10
        forOperands (fun path => do
          match ← readWhole path with
          | .ok bytes =>
            let lines := (c.lines finish bytes.toList).filterMap c.apply
            printBytes (lines.flatMap (· ++ [finish]))
            return true
          | .error fault =>
            unreadable "cut" path fault
            return false) (orInput o.operands))
    [("bytes", 'b'), ("characters", 'c'), ("fields", 'f'), ("delimiter", 'd'),
      ("only-delimited", 's'), ("complement", 'C'), ("output-delimiter", 'O'),
      ("zero-terminated", 'z')]

/-! ## Pasting -/

/-- The marks that a list writes, of which some may be empty; none if a backslash ends it. -/
def pasteMarks : List Char → Option (List (List UInt8))
  | [] => some []
  | ['\\'] => none
  | '\\' :: c :: rest => do
    let more ← pasteMarks rest
    let mark : List UInt8 := match c with
      | '0' => []
      | 'n' => [10]
      | 't' => [9]
      | 'b' => [8]
      | 'f' => [12]
      | 'r' => [13]
      | 'v' => [11]
      | c => (String.singleton c).toUTF8.toList
    return mark :: more
  | c :: rest => do
    return (String.singleton c).toUTF8.toList :: (← pasteMarks rest)

/-- Parts with marks between them, which come one after the other again and again. -/
def joinedBy (marks : List (List UInt8)) (parts : List (List UInt8)) : List UInt8 :=
  (parts.zipIdx).flatMap fun (p, i) =>
    if i = 0 then p else (marks[(i - 1) % max 1 marks.length]?).getD [] ++ p

/-- Lines side by side, up to the end of the longest file. -/
def sideBySide (marks : List (List UInt8)) :
    (fuel : Nat) → List (List (List UInt8)) → List (List UInt8)
  | 0, _ => []
  | fuel + 1, files =>
    if files.all (·.isEmpty) then []
    else
      joinedBy marks (files.map fun f => f.head?.getD []) ::
        sideBySide marks fuel (files.map List.tail)

/-- The lines of an input that several operands share, dealt out to them. -/
def dealt (count : Nat) (lines : List (List UInt8)) (place : Nat) : List (List UInt8) :=
  (lines.zipIdx).filterMap fun (l, i) => if i % max 1 count = place then some l else none

/-- `paste` puts lines side by side. -/
def paste : Utility :=
  withOptions "paste" "sz" "d" 1
    (fun o => do
      match pasteMarks ((o.value? 'd').getD "\t").toList with
      | none =>
        complain ("paste: delimiter list ends with an unescaped backslash: " ++
          (o.value? 'd').getD "")
        return 1
      | some marks =>
        let finish : UInt8 := if o.has 'z' then 0 else 10
        let operands := orInput o.operands
        let mut input : List (List UInt8) := []
        if operands.contains "-" then
          if let .ok bytes ← readWhole "-" then input := linesEndedBy finish bytes.toList
        let shares := (operands.filter (· = "-")).length
        let mut files : List (List (List UInt8)) := []
        let mut taken := 0
        let mut status := 0
        for path in operands do
          if path = "-" then
            -- What one reader of the input takes, the others do not get.
            let own := if o.has 's' then (if taken = 0 then input else [])
              else dealt shares input taken
            files := files ++ [own]
            taken := taken + 1
          else match ← readWhole path with
            | .ok bytes => files := files ++ [linesEndedBy finish bytes.toList]
            | .error fault =>
              unreadable "paste" path fault
              status := 1
              if !o.has 's' then throw (Stop.exit 1)
        let lines :=
          if o.has 's' then files.map (joinedBy marks)
          else sideBySide marks ((files.map List.length).foldl max 0) files
        printBytes (lines.flatMap (· ++ [finish]))
        return status)
    [("delimiters", 'd'), ("serial", 's'), ("zero-terminated", 'z')]

end Assay.Shell
