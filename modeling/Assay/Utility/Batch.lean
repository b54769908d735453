import Assay.Utility.Change
import Assay.Utility.Launch

/-!
# Running programs with arguments from the input

`xargs` runs a program with the items of its input as further arguments, with as many at once as
options and the length of commands allow. Items are separated by blanks, which quotes and
backslashes protect, or by an octet of one's own; or else they are lines that are put in the place
of a mark.
-/

namespace Assay.Shell

open Host

/-! ## Items -/

/-- An item, and whether a line ends behind it. -/
structure InputItem where
  text : List UInt8
  last : Bool := false

/-- Where an item is read. -/
inductive ItemPlace where
  | between
  | inside
  | quoted (mark : UInt8)
  | escaped

/-- The items of an input, and the quote that is not closed if there is one. `whole` says that items
are lines; `text` are the octets of the item that is being read, the last one first. -/
def inputItems (whole : Bool) : ItemPlace → (text : List UInt8) → List UInt8 →
    List InputItem × Option UInt8
  | .between, _, [] => ([], none)
  | .quoted mark, _, [] => ([], some mark)
  | _, text, [] => ([⟨text.reverse, true⟩], none)
  | .between, _, b :: rest =>
    if isGap b then inputItems whole .between [] rest
    else if b = 92 then inputItems whole .escaped [] rest
    else if b = 34 || b = 39 then inputItems whole (.quoted b) [] rest
    else inputItems whole .inside [b] rest
  | .inside, text, b :: rest =>
    if b = 10 || (isGap b && !whole) then
      let (items, fault) := inputItems whole .between [] rest
      (⟨text.reverse, b = 10⟩ :: items, fault)
    else if b = 92 then inputItems whole .escaped text rest
    else if b = 34 || b = 39 then inputItems whole (.quoted b) text rest
    else inputItems whole .inside (b :: text) rest
  | .quoted mark, text, b :: rest =>
    if b = mark then inputItems whole .inside text rest
    else if b = 10 then ([], some mark)
    else inputItems whole (.quoted mark) (b :: text) rest
  | .escaped, text, b :: rest => inputItems whole .inside (b :: text) rest

/-- The items between marks. -/
def markedItems (mark : UInt8) (bytes : List UInt8) : List InputItem :=
  let parts := bytes.foldr
    (fun b items =>
      if b = mark then [] :: items
      else match items with
        | i :: rest => (b :: i) :: rest
        | [] => [[b]])
    []
  parts.map fun p => ⟨p, true⟩

/-! ## Calls -/

/-- How programs are run with items. -/
structure Batching where
  perCall : Option Nat := none
  linesPerCall : Option Nat := none
  replaced : Option String := none
  mark : Option UInt8 := none
  /-- The item that ends the input. -/
  ending : Option String := none
  /-- How long a command can be. -/
  maxLength : Nat := 131072
  traced : Bool := false
  /-- Whether nothing is run without items. -/
  needsItems : Bool := false

/-- How much of a command some words take. -/
def commandLength (words : List String) : Nat :=
  (words.map fun w => w.utf8ByteSize + 1).foldl (· + ·) 0

/-- Items in the groups that are given to programs; `count`, `lines` and `length` are those of the
group that is being filled, which is told with its last item first. None if an item is too long. -/
def Batching.groups (b : Batching) (base : Nat) : (count lines length : Nat) →
    (group : List String) → List (String × Bool) → Option (List (List String))
  | _, _, _, group, [] => some (if group.isEmpty then [] else [group.reverse])
  | count, lines, length, group, (item, last) :: rest =>
    let own := item.utf8ByteSize + 1
    let lines' := lines + if last then 1 else 0
    let full (count lines : Nat) : Bool :=
      b.perCall.any (· ≤ count) || b.linesPerCall.any (· ≤ lines)
    let close (group : List String) (others : Option (List (List String))) :
        Option (List (List String)) :=
      others.map (group.reverse :: ·)
    if b.maxLength < base + own then none
    else if !group.isEmpty && b.maxLength < base + length + own then
      let line := if last then 1 else 0
      close group <|
        if full 1 line then close [item] (b.groups base 0 0 0 [] rest)
        else b.groups base 1 line own [item] rest
    else if full (count + 1) lines' then close (item :: group) (b.groups base 0 0 0 [] rest)
    else b.groups base (count + 1) lines' (length + own) (item :: group) rest

/-- A text with another one in the place of each mark; of at most so many characters. -/
def replacing (mark value : List Char) : (fuel : Nat) → List Char → List Char
  | 0, s => s
  | _, [] => []
  | fuel + 1, c :: s =>
    if mark.isPrefixOf (c :: s) then value ++ replacing mark value fuel ((c :: s).drop mark.length)
    else c :: replacing mark value fuel s

/-- The words of the commands that are run. -/
def Batching.commands (b : Batching) (words : List String) (items : List InputItem) :
    Option (List (List String)) :=
  let texts := items.map fun i => (Text.decodeLossy ⟨i.text.toArray⟩, i.last)
  let texts := texts.takeWhile fun t => some t.1 ≠ b.ending
  match b.replaced with
  | some mark =>
    some <| texts.map fun (item, _) =>
      words.take 1 ++ (words.drop 1).map fun w =>
        String.ofList (replacing mark.toList item.toList (w.length + 1) w.toList)
  | none =>
    if texts.isEmpty then some (if b.needsItems then [] else [words])
    else (b.groups (commandLength words) 0 0 0 [] texts).map fun gs => gs.map (words ++ ·)

/-- Runs commands one after the other up to one that ends it all; the status. -/
def Batching.run (b : Batching) (launcher : Launcher) :
    (status : Nat) → List (List String) → Eval Nat
  | status, [] => return status
  | status, words :: rest => do
    if b.traced then complain (" ".intercalate (words.map shownName))
    match words with
    | [] => b.run launcher status rest
    | name :: args =>
      match ← launcher.start none name args with
      | .error fault =>
        complain ("xargs: " ++ name ++ ": " ++ fault.words)
        return launchStatus fault
      | .ok finish =>
        if let some signal := finish.signal then
          complain ("xargs: " ++ name ++ ": terminated by signal " ++ toString signal)
          return 125
        else if finish.status = 255 then
          complain ("xargs: " ++ name ++ ": exited with status 255; aborting")
          return 124
        else b.run launcher (if finish.status = 0 then status else 123) rest

/-! ## Options -/

/-- The octet that a text writes as the mark between items. -/
def itemMark? (s : String) : Option UInt8 :=
  match s.toList with
  | ['\\', '0'] => some 0
  | ['\\', c] => letterEscape? c
  | _ =>
    match textBytes s with
    | [b] => some b
    | _ => none

/-- How options say that programs are run, with warnings; an error is a message. -/
def batchingOf : List (Char × String) → Batching → List String →
    Except String (Batching × List String)
  | [], b, warnings => .ok (b, warnings)
  | (letter, value) :: rest, b, warnings => do
    let number (least : Nat) : Except String Nat :=
      match naturalNumber? value with
      | none =>
        .error ("invalid number \"" ++ value ++ "\" for -" ++ String.singleton letter ++ " option")
      | some n =>
        if n < least then
          .error ("value " ++ value ++ " for -" ++ String.singleton letter ++
            " option should be >= " ++ toString least)
        else .ok n
    let warning (what other : String) : String :=
      "warning: options " ++ what ++ " are mutually exclusive, ignoring previous " ++ other ++
        " value"
    match letter with
    | 'n' => do
      let n ← number 1
      if b.replaced.isSome && n = 1 then batchingOf rest b warnings
      else
        let told := if b.replaced.isSome then
          [warning "--replace and --max-args/-n" "--replace"] else []
        batchingOf rest { b with perCall := some n, replaced := none, linesPerCall := none }
          (warnings ++ told)
    | 'L' => do
      let n ← number 1
      batchingOf rest { b with linesPerCall := some n, perCall := none, replaced := none } warnings
    | 'I' =>
      let told := if b.perCall.isSome then
        [warning "--max-args and --replace/-I/-i" "--max-args"] else []
      batchingOf rest
        { b with replaced := some value, perCall := none, linesPerCall := none }
        (warnings ++ told)
    | 's' => do
      let n ← number 1
      batchingOf rest { b with maxLength := n } warnings
    | 'P' => do
      let _ ← number 0
      batchingOf rest b warnings
    | 'd' =>
      match itemMark? value with
      | some mark => batchingOf rest { b with mark := some mark } warnings
      | none =>
        throw ("Invalid input delimiter specification " ++ value ++ ": the delimiter must be " ++
          "either a single character or an escape sequence starting with \\.")
    | '0' => batchingOf rest { b with mark := some 0 } warnings
    | 'E' => batchingOf rest { b with ending := some value } warnings
    | 't' => batchingOf rest { b with traced := true } warnings
    | 'r' => batchingOf rest { b with needsItems := true } warnings
    | _ => batchingOf rest b warnings

/-- Options whose values may be left out, with what stands for them. -/
def withBatchDefaults (arg : String) : String :=
  match arg.toList with
  | ['-', 'i'] => "-I{}"
  | '-' :: 'i' :: value => String.ofList ('-' :: 'I' :: value)
  | ['-', 'l'] => "-L1"
  | '-' :: 'l' :: value => String.ofList ('-' :: 'L' :: value)
  | _ =>
    if arg = "--replace" then "-I{}" else if arg = "--max-lines" then "-L1" else arg

/-- The items of an input, in groups as commands take them, are run; the status. -/
def Batching.perform (b : Batching) (launcher : Launcher) (words : List String)
    (bytes : ByteArray) : Eval Nat := do
  let (items, fault) := match b.mark with
    | some mark => (markedItems mark bytes.toList, none)
    | none => inputItems b.replaced.isSome .between [] bytes.toList
  let refuse (message : String) : Eval Nat := do
    complain ("xargs: " ++ message)
    return 1
  let status ←
    if fault.isSome && items.isEmpty then pure 0
    else match b.commands words items with
      | some commands => b.run launcher 0 commands
      | none => refuse "argument line too long"
  match fault with
  | some quote =>
    refuse ("unmatched " ++ (if quote = 39 then "single" else "double") ++
      " quote; by default quotes are special to xargs unless you use the -0 option")
  | none => return status

/-- `xargs` runs programs with the items of its input. -/
def xargs (launcher : Launcher) : Utility := fun args => do
  let (front, words) := splitOperands "aEILnPsd" args
  withOptions "xargs" "0prtx" "aEILnPsd" 1
    (fun o => do
      match batchingOf o.letters {} [] with
      | .error message =>
        if message.startsWith "Invalid" then complain ("xargs: " ++ message)
        else misused "xargs" message
        return 1
      | .ok (b, warnings) =>
        for warning in warnings do complain ("xargs: " ++ warning)
        let words := if words.isEmpty then ["echo"] else words
        match o.value? 'a' with
        | some path =>
          match ← readWhole path with
          | .error fault =>
            complain ("xargs: Cannot open input file " ++ quotedName path ++ ": " ++ fault.words)
            return 1
          | .ok bytes => b.perform launcher words bytes
        | none =>
          match ← readWhole "-" with
          | .error _ => b.perform launcher words ⟨#[]⟩
          | .ok bytes =>
            setStream 0 .null
            b.perform launcher words bytes)
    [("null", '0'), ("arg-file", 'a'), ("delimiter", 'd'), ("eof", 'E'), ("replace", 'I'),
      ("max-lines", 'L'), ("max-args", 'n'), ("max-procs", 'P'), ("interactive", 'p'),
      ("no-run-if-empty", 'r'), ("max-chars", 's'), ("verbose", 't'), ("exit", 'x')]
    (front.map withBatchDefaults)

end Assay.Shell
