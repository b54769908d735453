import Assay.Datum
import Assay.Yaml.Token

/-!
# The tree of a YAML document

The tokens of a text make one document at most: a tree of scalars, sequences and mappings. A node
may have an anchor, and an alias refers to the node whose anchor it names by the number of the
anchor. Where a node is left out an empty scalar stands for it. Where the tokens are no document the
tree breaks off: what was read until then is kept, and a mark stands for what is missing.

Anchors are numbered by how many names were in use before, so the second use of a name and the first
of the next one have one number. What a number refers to is decided when the whole document is read:
the node that began last.
-/

namespace Assay.Yaml

namespace Tree

/-- The node that stands where none is written. -/
def empty : Datum :=
  .scalar (.written "" .plain none)

/-- What a reader of nodes knows: the tokens to come, what the handles of tags stand for, the
numbers of the anchors' names, and the nodes with anchors: their numbers, their ranks by where they
begin, and themselves. -/
structure Reading where
  tokens : List Token
  handles : List (String × String) := []
  numbers : List (String × Nat) := []
  begun : Nat := 0
  anchored : List (Nat × Nat × Datum) := []

/-- A reader of nodes. -/
abbrev Read := StateM Reading

/-- The next token. -/
def peek : Read Token := do
  match (← get).tokens with
  | t :: _ => return t
  | [] => return .streamEnd

/-- Goes over the next token. -/
def advance : Read Unit :=
  modify fun r => { r with tokens := r.tokens.drop 1 }

/-- Breaks off because of a fault: no more tokens are read. Of two faults the first counts. -/
def breakOff {α : Type} (fault : Fault) (a : α) : Read α := do
  match ← peek with
  | .broken _ => return a
  | _ =>
    modify fun r => { r with tokens := [.broken fault] }
    return a

/-- Breaks off because of a problem met during an activity. -/
def refuse {α : Type} (activity : Activity) (problem : Problem) (a : α) : Read α :=
  breakOff (.malformed problem (some activity)) a

/-- Breaks off because the budget is used up, which no text brings about. -/
def exhausted {α : Type} (a : α) : Read α :=
  refuse .nextToken .endOfText a

/-- Whether the tokens break off here. -/
def isBroken : Token → Bool
  | .broken _ => true
  | _ => false

/-- Goes over a comma that must come next. -/
def comma (activity : Activity) (problem : Problem) : Read Unit := do
  if (← peek) = .comma then advance else refuse activity problem ()

/-- Reads an anchor, if there is one, and gives its node a number and a rank. -/
def anchor? : Read (Option (Nat × Nat)) := do
  match ← peek with
  | .anchor name =>
    advance
    let r ← get
    let number := r.numbers.length
    set { r with
      numbers := (name, number) :: r.numbers.filter (·.1 ≠ name)
      begun := r.begun + 1 }
    return some (number, r.begun)
  | _ => return none

/-- The tag that a handle and a rest make. -/
def resolveTag (handle rest : String) : Read String := do
  if handle.isEmpty then return rest
  else match (← get).handles.lookup handle with
    | some stem => return stem ++ rest
    | none => refuse .node .undefinedHandle rest

/-- Reads a tag, if there is one, as its handle and the rest. -/
def tag? : Read (Option (String × String)) := do
  match ← peek with
  | .tag handle rest =>
    advance
    return some (handle, rest)
  | _ => return none

/-- Reads an anchor and a tag in either order. -/
def properties : Read (Option (Nat × Nat) × Option String) := do
  let (anchor, tag) ← match ← anchor? with
    | some n => pure (some n, ← tag?)
    | none =>
      let tag ← tag?
      pure (← anchor?, tag)
  match tag with
  | some (handle, rest) => return (anchor, some (← resolveTag handle rest))
  | none => return (anchor, none)

/-- Whether a token ends an item or the key or value of a block. -/
def endsBlockValue (t : Token) : Bool :=
  t = .key || t = .value || t = .blockEnd

mutual

/-- Reads a node. In a block, blocks may stand for it; as a key or value of one also the items of a
sequence that are no deeper than the key. -/
def node (block itemsAllowed : Bool) : (fuel : Nat) → Read Datum
  | 0 => exhausted .cut
  | fuel + 1 => do
    match ← peek with
    | .alias name =>
      advance
      match (← get).numbers.lookup name with
      | some n => return .ref n
      | none => breakOff .unknownAnchor .cut
    | _ =>
      let (anchor, tag) ← properties
      let n ← content block itemsAllowed (anchor.isSome || tag.isSome) tag fuel
      match anchor with
      | some (number, rank) =>
        modify fun r => { r with anchored := (number, rank, n) :: r.anchored }
        return n
      | none => return n

/-- Reads a node behind its anchor and its tag. -/
def content (block itemsAllowed marked : Bool) (tag : Option String) : (fuel : Nat) → Read Datum
  | 0 => exhausted .cut
  | fuel + 1 => do
    let t ← peek
    if t = .item && itemsAllowed then return .seq (← looseItems fuel) tag
    else match t with
      | .broken _ => return .cut
      | .scalar text style =>
        advance
        return .scalar (.written text style tag)
      | .flowSequence =>
        advance
        return .seq (← flowItems true fuel) tag
      | .flowMapping =>
        advance
        return .map (← flowEntries true fuel) tag
      | t =>
        if block && t = .blockSequence then
          advance
          return .seq (← blockItems fuel) tag
        else if block && t = .blockMapping then
          advance
          return .map (← blockEntries fuel) tag
        else if marked then return .scalar (.written "" .plain tag)
        else refuse (if block then .blockNode else .flowNode) .noContent .cut

/-- Reads the items of a block up to its end. -/
def blockItems : (fuel : Nat) → Read (List Datum)
  | 0 => exhausted [.cut]
  | fuel + 1 => do
    match ← peek with
    | .item =>
      advance
      let t ← peek
      let n ← if t = .item || t = .blockEnd then pure empty else node true false fuel
      return n :: (← blockItems fuel)
    | .blockEnd =>
      advance
      return []
    | _ => refuse .blockSequence .noItemMark [.cut]

/-- Reads items that are no deeper than the key in front of them. -/
def looseItems : (fuel : Nat) → Read (List Datum)
  | 0 => exhausted [.cut]
  | fuel + 1 => do
    match ← peek with
    | .item =>
      advance
      let t ← peek
      let n ← if t = .item || endsBlockValue t then pure empty else node true false fuel
      return n :: (← looseItems fuel)
    | .broken _ => return [.cut]
    | _ => return []

/-- Reads the keys and values of a block up to its end. -/
def blockEntries : (fuel : Nat) → Read (List (Datum × Datum))
  | 0 => exhausted [(.cut, .cut)]
  | fuel + 1 => do
    match ← peek with
    | .key =>
      advance
      let k ← if endsBlockValue (← peek) then pure empty else node true true fuel
      let v ← match ← peek with
        | .value =>
          advance
          if endsBlockValue (← peek) then pure empty else node true true fuel
        | .broken _ => pure .cut
        | _ => pure empty
      return (k, v) :: (← blockEntries fuel)
    | .blockEnd =>
      advance
      return []
    | _ => refuse .blockMapping .noKey [(.cut, .cut)]

/-- Reads what is behind the colon of a key in brackets, if a colon is there. -/
def flowValue (close : Token) : (fuel : Nat) → Read Datum
  | 0 => exhausted .cut
  | fuel + 1 => do
    match ← peek with
    | .value =>
      advance
      let t ← peek
      if t = .comma || t = close then return empty else node false false fuel
    | .broken _ => return .cut
    | _ => return empty

/-- Reads the items in square brackets. A key with its value is a mapping of its own. -/
def flowItems (first : Bool) : (fuel : Nat) → Read (List Datum)
  | 0 => exhausted [.cut]
  | fuel + 1 => do
    if (← peek) = .flowSequenceEnd then
      advance
      return []
    else
      if !first then comma .flowSequence .noSequenceMark
      match ← peek with
      | .key =>
        advance
        let t ← peek
        let k ←
          if t = .value || t = .comma || t = .flowSequenceEnd then
            advance
            pure empty
          else node false false fuel
        let v ← flowValue .flowSequenceEnd fuel
        return .map [(k, v)] none :: (← flowItems false fuel)
      | .flowSequenceEnd =>
        advance
        return []
      | .broken _ => return [.cut]
      | _ =>
        let n ← node false false fuel
        return n :: (← flowItems false fuel)

/-- Reads the keys and values in curly brackets. -/
def flowEntries (first : Bool) : (fuel : Nat) → Read (List (Datum × Datum))
  | 0 => exhausted [(.cut, .cut)]
  | fuel + 1 => do
    if (← peek) = .flowMappingEnd then
      advance
      return []
    else
      if !first then comma .flowMapping .noMappingMark
      match ← peek with
      | .key =>
        advance
        let t ← peek
        let k ←
          if t = .value || t = .comma || t = .flowMappingEnd then pure empty
          else node false false fuel
        let v ← flowValue .flowMappingEnd fuel
        return (k, v) :: (← flowEntries false fuel)
      | .flowMappingEnd =>
        advance
        return []
      | .broken _ => return [(.cut, .cut)]
      | _ =>
        let k ← node false false fuel
        let v := if isBroken (← peek) then .cut else empty
        return (k, v) :: (← flowEntries false fuel)

end

/-- What the handles stand for that no directive declares. -/
def defaultHandles : List (String × String) :=
  [("!", "!"), ("!!", "tag:yaml.org,2002:")]

/-- Reads directives. The version may be given once and must be 1.1 or 1.2; a handle may be declared
once. -/
def directives (version : Bool) : List Token → (declared : List (String × String)) →
    Except Fault (List (String × String) × List Token)
  | .version major minor :: rest, declared =>
    if version then .error (.malformed .secondVersion none)
    else if major ≠ 1 || (minor ≠ 1 && minor ≠ 2) then .error (.malformed .wrongVersion none)
    else directives true rest declared
  | .handle name stem :: rest, declared =>
    if (declared.lookup name).isSome then .error (.malformed .secondHandle none)
    else directives version rest ((name, stem) :: declared)
  | tokens, declared => .ok (declared ++ defaultHandles, tokens)

/-- Whether a token stands where the content of a document is left out. -/
def endsDocument : Token → Bool
  | .version .. | .handle .. | .documentStart | .documentEnd | .streamEnd => true
  | _ => false

/-- The nodes that the numbers of anchors refer to: of those with one number the last to begin. -/
def referents (anchored : List (Nat × Nat × Datum)) : List (Nat × Datum) :=
  let latest := anchored.filter fun (number, rank, _) =>
    anchored.all fun (m, r, _) => m ≠ number || r ≤ rank
  latest.map fun (number, _, n) => (number, n)

end Tree

/-- The document that a text writes: its content, what references in it stand for, and the first
fault if the text is not one document and nothing else. -/
structure Document where
  content : Datum
  referents : List (Nat × Datum) := []
  fault : Option Fault

namespace Document

/-- What is wrong with the tokens behind the content of a document. -/
def trailingFault (tokens : List Token) : Option Fault :=
  match tokens with
  | [.streamEnd] => none
  | .broken fault :: _ => some fault
  | .documentEnd :: rest =>
    if rest.dropWhile (· = .documentEnd) = [.streamEnd] then none else some .secondDocument
  | _ => some .secondDocument

/-- Reads the content of a document. -/
def readContent (explicit : Bool) (fuel : Nat) : Tree.Read Document := do
  let content ← if explicit && Tree.endsDocument (← Tree.peek) then pure Tree.empty
    else Tree.node true false fuel
  let r ← get
  return {
    content
    referents := Tree.referents r.anchored
    fault := trailingFault r.tokens }

/-- What tokens make. Directives must be followed by the mark of a document's beginning. -/
def ofTokens (tokens : List Token) : Document :=
  let fuel := 4 * tokens.length + 4
  match tokens, Tree.directives false tokens [] with
  | [.streamEnd], _ => { content := Tree.empty, fault := none }
  | _, .error fault => { content := .cut, fault := some fault }
  | _, .ok (handles, .documentStart :: rest) =>
    ((readContent true fuel).run { tokens := rest, handles }).1
  | _, .ok (handles, rest) =>
    if rest.length = tokens.length then
      ((readContent false fuel).run { tokens := rest, handles }).1
    else
      let fault := match rest with
        | .broken fault :: _ => fault
        | _ => .malformed .noDocumentStart none
      { content := .cut, fault := some fault }

/-- The document of a text. -/
def ofText (text : String) : Document :=
  ofTokens (Token.ofText text.toList)

end Document

end Assay.Yaml
