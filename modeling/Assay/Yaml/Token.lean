import Assay.Text.Bytes
import Assay.Yaml.Scalar

/-!
# Tokens of YAML

A text is split into marks and scalars. Indentation becomes marks too: an item or a key that stands
deeper than the block around it begins a block, and a token that stands less deep ends the blocks it
leaves. A scalar turns out to be a key only when a colon follows it on its line, so the scanner
remembers for each level of brackets where such a key could begin, and puts the mark of the key in
front of it afterwards. Until then the tokens from there on are not known: where the text is
malformed behind such a place, the tokens end at it.
-/

namespace Assay.Yaml

/-- A mark or a scalar. -/
inductive Token where
  | streamEnd
  /-- A directive that gives the version of the language. -/
  | version (major minor : Nat)
  /-- A directive that lets a handle stand for the beginning of a tag. -/
  | handle (name stem : String)
  | documentStart
  | documentEnd
  | blockSequence
  | blockMapping
  | blockEnd
  | flowSequence
  | flowSequenceEnd
  | flowMapping
  | flowMappingEnd
  | item
  | comma
  | key
  | value
  | alias (name : String)
  | anchor (name : String)
  /-- A tag, as its handle and the rest. -/
  | tag (handle rest : String)
  | scalar (text : String) (style : Style)
  /-- The text is malformed from here on. -/
  | broken (fault : Fault)
deriving DecidableEq

/-- Where a key could begin: the number of tokens in front of it, and its position. -/
structure KeyStart where
  required : Bool
  before : Nat
  line : Nat
  column : Nat
  octets : Nat

/-- A text partly split into tokens. -/
structure Scanner where
  cursor : Cursor
  /-- The tokens read, the last one first. -/
  tokens : List Token := []
  count : Nat := 0
  /-- The column of the block; minus one outside of all blocks. -/
  indent : Int := -1
  /-- The columns of the blocks around it, the innermost first. -/
  outer : List Int := []
  /-- The key that could begin, outside and for each open bracket, the innermost first. -/
  keys : List (Option KeyStart) := [none]
  /-- Whether a key may begin here. -/
  keyAllowed : Bool := true
  finished : Bool := false

namespace Scanner

/-- Whether brackets are open. -/
def inFlow (s : Scanner) : Bool :=
  s.keys.length > 1

/-- The scanner with one more token. -/
def push (s : Scanner) (t : Token) : Scanner :=
  { s with tokens := t :: s.tokens, count := s.count + 1 }

/-- The scanner with a token put behind the first `before` ones. -/
def insert (s : Scanner) (before : Nat) (t : Token) : Scanner :=
  let behind := s.count - before
  { s with
    tokens := s.tokens.take behind ++ t :: s.tokens.drop behind
    count := s.count + 1 }

/-! ## Blocks -/

/-- Begins a block at a column that is deeper than the current block. -/
def roll (s : Scanner) (column before : Nat) (t : Token) : Scanner :=
  if s.inFlow || s.indent ≥ column then s
  else { s.insert before t with indent := column, outer := s.indent :: s.outer }

/-- Ends the blocks that are deeper than a column. -/
def unrollFrom (column : Int) : (outer : List Int) → Scanner → Scanner
  | [], s => s
  | i :: outer, s =>
    if s.indent > column then unrollFrom column outer { s.push .blockEnd with indent := i, outer }
    else s

/-- Ends the blocks that are deeper than a column; inside brackets there is none to end. -/
def unroll (s : Scanner) (column : Int) : Scanner :=
  if s.inFlow then s else unrollFrom column s.outer s

/-! ## Keys -/

/-- Whether a key that began there can still be followed by its colon: on the same line and at most
1024 octets away. -/
def reaches (s : Scanner) (k : KeyStart) : Bool :=
  k.line ≥ s.cursor.line && k.octets + 1024 ≥ s.cursor.octets

/-- Forgets the keys that cannot be followed by their colon any more; fails if one had to be. -/
def dropStale (s : Scanner) : Except Fault Scanner := do
  let keys ← s.keys.mapM fun
    | none => .ok none
    | some k =>
      if s.reaches k then .ok (some k)
      else if k.required then wrong .simpleKey .noColon
      else .ok none
  return { s with keys }

/-- Forgets the key of the innermost level; fails if it had to be one. -/
def dropKey (s : Scanner) : Except Fault Scanner :=
  match s.keys with
  | some k :: keys =>
    if k.required then wrong .simpleKey .noColon else .ok { s with keys := none :: keys }
  | _ => .ok s

/-- Remembers that a key could begin here, if one may. -/
def saveKey (s : Scanner) : Except Fault Scanner := do
  if !s.keyAllowed then return s
  else
    let c := s.cursor
    let s ← s.dropKey
    let k : KeyStart :=
      { required := !s.inFlow && s.indent = c.column
        before := s.count
        line := c.line
        column := c.column
        octets := c.octets }
    return { s with keys := some k :: s.keys.drop 1 }

/-! ## Marks -/

/-- Goes over so many characters. -/
def skip (s : Scanner) (n : Nat) : Scanner :=
  { s with cursor := s.cursor.skip n }

/-- Goes over blanks, comments and line breaks. A byte order mark may begin a line; it takes a
column. -/
def skipBlanks : (fuel : Nat) → Scanner → Scanner
  | 0, s => s
  | fuel + 1, s =>
    let tabs := s.inFlow || !s.keyAllowed
    let c := s.cursor
    let c := if c.column = 0 && c.rest.head? = some '\ufeff' then c.skip 1 else c
    let (_, c) := c.takeWhile fun d => d = ' ' || (tabs && d = '\t')
    let c := match c.rest with
      | '#' :: _ => (c.takeWhile fun d => !isBreak d).2
      | _ => c
    match c.readBreak? with
    | some (_, c) =>
      skipBlanks fuel { s with cursor := c, keyAllowed := s.keyAllowed || !s.inFlow }
    | none => { s with cursor := c }

/-- Leaves all blocks in front of a directive or a mark of a document. -/
def leaveBlocks (s : Scanner) : Except Fault Scanner := do
  let s ← (s.unroll (-1)).dropKey
  return { s with keyAllowed := false }

/-- The end of the text. -/
def finish (s : Scanner) : Except Fault Scanner := do
  let s ← s.leaveBlocks
  return { s.push .streamEnd with finished := true }

/-- A mark of a document. -/
def documentMark (s : Scanner) (t : Token) : Except Fault Scanner := do
  return ((← s.leaveBlocks).skip 3).push t

/-- An opening bracket. -/
def openFlow (s : Scanner) (t : Token) : Except Fault Scanner := do
  let s ← s.saveKey
  return { (s.skip 1).push t with keys := none :: s.keys, keyAllowed := true }

/-- A closing bracket. -/
def closeFlow (s : Scanner) (t : Token) : Except Fault Scanner := do
  let s ← s.dropKey
  return { (s.skip 1).push t with
    keys := if s.inFlow then s.keys.drop 1 else s.keys
    keyAllowed := false }

/-- A comma. -/
def comma (s : Scanner) : Except Fault Scanner := do
  return { ((← s.dropKey).skip 1).push .comma with keyAllowed := true }

/-- Begins a block at the cursor where a mark may stand. -/
def openBlock (s : Scanner) (t : Token) (otherwise : Problem) : Except Fault Scanner :=
  if s.inFlow then .ok s
  else if s.keyAllowed then .ok (s.roll s.cursor.column s.count t)
  else .error (.malformed otherwise none)

/-- The mark of an item of a sequence. -/
def item (s : Scanner) : Except Fault Scanner := do
  let s ← (← s.openBlock .blockSequence .itemNotAllowed).dropKey
  return { (s.skip 1).push .item with keyAllowed := true }

/-- The mark of a key. -/
def key (s : Scanner) : Except Fault Scanner := do
  let s ← (← s.openBlock .blockMapping .keyNotAllowed).dropKey
  return { (s.skip 1).push .key with keyAllowed := !s.inFlow }

/-- The mark of a value. What stands in front of it becomes a key if it can. -/
def value (s : Scanner) : Except Fault Scanner := do
  match s.keys with
  | some k :: keys =>
    let s := { s.insert k.before .key with keys := none :: keys }
    let s := s.roll k.column k.before .blockMapping
    return { (s.skip 1).push .value with keyAllowed := false }
  | _ =>
    let s ← s.openBlock .blockMapping .valueNotAllowed
    return { (s.skip 1).push .value with keyAllowed := !s.inFlow }

/-! ## Names -/

/-- The characters of names: letters and digits of ASCII, hyphen and underscore. -/
def isNameChar (c : Char) : Bool :=
  c.isAlphanum || c == '-' || c == '_'

/-- An anchor or an alias. -/
def name (s : Scanner) (activity : Activity) (token : String → Token) : Except Fault Scanner := do
  let s ← s.saveKey
  let (name, c) := (s.cursor.skip 1).takeWhile isNameChar
  let closed := match c.rest with
    | d :: _ => endsWord c.rest || ['?', ':', ',', ']', '\x7d', '%', '@', '\x60'].contains d
    | [] => true
  if name.isEmpty || !closed then wrong activity .noNameCharacter
  else return { s.push (token (String.ofList name)) with cursor := c, keyAllowed := false }

/-- The characters of tags. -/
def isTagChar (verbatim : Bool) (c : Char) : Bool :=
  isNameChar c || ";/?:@&=+$.%!~*'()".toList.contains c || (verbatim && ",[]".toList.contains c)

/-- The octet that a percent sign and two digits write. -/
def percentOctet? : List Char → Option (Nat × List Char)
  | '%' :: a :: b :: rest => (inBase? 16 [a, b]).map fun n => (n, rest)
  | _ => none

/-- The number of octets behind the first octet of a character. -/
def octetsBehind? (n : Nat) : Option Nat :=
  if n < 0x80 then some 0
  else if 0xC0 ≤ n && n < 0xE0 then some 1
  else if 0xE0 ≤ n && n < 0xF0 then some 2
  else if 0xF0 ≤ n && n < 0xF8 then some 3
  else none

/-- Reads so many octets behind the first one of a character. -/
def trailingOctets (activity : Activity) : (count : Nat) → List Char →
    Except Fault (List UInt8 × List Char)
  | 0, s => .ok ([], s)
  | count + 1, s =>
    match percentOctet? s with
    | none => wrong activity .noOctet
    | some (n, rest) =>
      if n / 64 ≠ 2 then wrong activity .trailingOctet
      else do
        let (octets, rest) ← trailingOctets activity count rest
        return (UInt8.ofNat n :: octets, rest)

/-- The octets of tag characters. A percent sign begins a character written by its octets. -/
def tagOctets (activity : Activity) : (fuel : Nat) → List Char → Except Fault (List UInt8)
  | 0, _ | _, [] => .ok []
  | fuel + 1, c :: s =>
    if c = '%' then
      match percentOctet? (c :: s) with
      | none => wrong activity .noOctet
      | some (n, rest) =>
        match octetsBehind? n with
        | none => wrong activity .leadingOctet
        | some count => do
          let (octets, rest) ← trailingOctets activity count rest
          return UInt8.ofNat n :: octets ++ (← tagOctets activity fuel rest)
    else return (Text.encode (String.singleton c)).toList ++ (← tagOctets activity fuel s)

/-- Reads the characters of a tag behind what has been read of it. -/
def tagText (activity : Activity) (verbatim : Bool) (head : List Char) (c : Cursor) :
    Except Fault (String × Cursor) := do
  let (cs, c) := c.takeWhile (isTagChar verbatim)
  if head.isEmpty && cs.isEmpty then wrong activity .noTagText
  else match Text.decode? ⟨(← tagOctets activity cs.length cs).toArray⟩ with
    | some decoded => return (String.ofList (head.drop 1) ++ decoded, c)
    | none => wrong activity .trailingOctet

/-- Reads the handle of a tag: an exclamation mark, and perhaps a name and another one. -/
def tagHandle (activity : Activity) (c : Cursor) : Except Fault (List Char × Cursor) :=
  match c.rest with
  | '!' :: _ =>
    let (name, c) := (c.skip 1).takeWhile isNameChar
    match c.rest with
    | '!' :: _ => .ok ('!' :: name ++ ['!'], c.skip 1)
    | _ => .ok ('!' :: name, c)
  | _ => wrong activity .noTagMark

/-- Reads a tag: verbatim in angle brackets, or with a handle. A lone exclamation mark is a tag of
its own. -/
def tagParts (c : Cursor) : Except Fault ((String × String) × Cursor) := do
  match c.rest with
  | '!' :: '<' :: _ =>
    let (rest, c) ← tagText .tagText true [] (c.skip 2)
    match c.rest with
    | '>' :: _ => return (("", rest), c.skip 1)
    | _ => wrong .tag .noClosingAngle
  | _ =>
    let (handle, c) ← tagHandle .tag c
    if handle.length > 1 && handle.getLast? = some '!' then
      let (rest, c) ← tagText .tagText false [] c
      return ((String.ofList handle, rest), c)
    else
      let (rest, c) ← tagText .tagText false handle c
      return (if rest.isEmpty then ("", "!") else ("!", rest), c)

/-- A tag. -/
def tag (s : Scanner) : Except Fault Scanner := do
  let s ← s.saveKey
  let ((handle, rest), c) ← tagParts s.cursor
  if endsWord c.rest || (s.inFlow && c.rest.head? = some ',') then
    return { s.push (.tag handle rest) with cursor := c, keyAllowed := false }
  else wrong .tag .noBlankOrBreak

/-! ## Directives -/

/-- Reads one to nine digits. -/
def directiveNumber (c : Cursor) : Except Fault (Nat × Cursor) :=
  let (ds, c) := c.takeWhile Text.isAsciiDigit
  if ds.isEmpty then wrong .versionDirective .noVersionNumber
  else if ds.length > 9 then wrong .versionDirective .longVersionNumber
  else .ok (Text.digitsValue ds, c)

/-- Reads what follows the name of a directive. -/
def directiveToken (name : String) (c : Cursor) : Except Fault (Token × Cursor) := do
  let (_, blanks) := c.takeWhile isBlank
  match name with
  | "YAML" =>
    let (major, c) ← directiveNumber blanks
    match c.rest with
    | '.' :: _ =>
      let (minor, c) ← directiveNumber (c.skip 1)
      return (.version major minor, c)
    | _ => wrong .versionDirective .noVersionMark
  | "TAG" =>
    let (handle, c) ← tagHandle .handleMark blanks
    if handle ≠ ['!'] && handle.getLast? ≠ some '!' then wrong .handleEnd .noTagMark
    else match c.rest with
      | d :: _ =>
        if !isBlank d then wrong .handleDirective .noBlank
        else
          let (stem, c) ← tagText .handleStem true [] (c.takeWhile isBlank).2
          if endsWord c.rest then return (.handle (String.ofList handle) stem, c)
          else wrong .handleDirective .noBlankOrBreak
      | [] => wrong .handleDirective .noBlank
  | _ => wrong .directive .unknownDirective

/-- A directive. -/
def directive (s : Scanner) : Except Fault Scanner := do
  let s ← s.leaveBlocks
  let (name, c) := (s.cursor.skip 1).takeWhile isNameChar
  if name.isEmpty then wrong .directive .noDirectiveName
  else if !endsWord c.rest then wrong .directive .directiveName
  else
    let (t, c) ← directiveToken (String.ofList name) c
    let c := c.skipComment
    if endsLine c.rest then return { s.push t with cursor := c.skipBreak }
    else wrong .directive .noLineEnd

/-! ## Scalars -/

/-- A scalar that was read. -/
def scalar (s : Scanner) (style : Style) (keyAllowed : Bool) (r : ReadScalar) : Scanner :=
  { s.push (.scalar r.text style) with cursor := r.cursor, keyAllowed }

/-- A scalar behind a bar or an angle bracket. -/
def blockScalar (s : Scanner) (literal : Bool) : Except Fault Scanner := do
  let s ← s.dropKey
  let r ← readBlock literal s.indent s.cursor
  return s.scalar (if literal then .literal else .quoted) true r

/-- A quoted scalar. -/
def quotedScalar (s : Scanner) (single : Bool) : Except Fault Scanner := do
  let s ← s.saveKey
  return s.scalar .quoted false (← readQuoted single s.cursor)

/-- An unquoted scalar. -/
def plainScalar (s : Scanner) : Except Fault Scanner := do
  let s ← s.saveKey
  let r ← readPlain s.inFlow (s.indent + 1) s.cursor
  return s.scalar .plain r.broken r

/-- Whether an unquoted scalar may begin with a character that `behind` follows. -/
def startsPlain (flow : Bool) (c : Char) (behind : List Char) : Bool :=
  if c = '-' then !(match behind with | d :: _ => isBlank d | [] => false)
  else if c = '?' || c = ':' then !flow && !endsWord behind
  else !",[]\x7b\x7d#&*!|>'\"%@\x60".toList.contains c

/-! ## The whole text -/

/-- Reads the next token, and the marks that its place gives rise to. -/
def next (s : Scanner) : Except Fault Scanner := do
  let s ← (skipBlanks (s.cursor.rest.length + 1) s).dropStale
  let s := s.unroll s.cursor.column
  match s.cursor.rest with
  | [] => s.finish
  | c :: behind =>
    if c = '%' && s.cursor.column = 0 then s.directive
    else if s.cursor.atMarker '-' then s.documentMark .documentStart
    else if s.cursor.atMarker '.' then s.documentMark .documentEnd
    else if c = '[' then s.openFlow .flowSequence
    else if c = '\x7b' then s.openFlow .flowMapping
    else if c = ']' then s.closeFlow .flowSequenceEnd
    else if c = '\x7d' then s.closeFlow .flowMappingEnd
    else if c = ',' then s.comma
    else if c = '-' && endsWord behind then s.item
    else if c = '?' && (s.inFlow || endsWord behind) then s.key
    else if c = ':' && (s.inFlow || endsWord behind) then s.value
    else if c = '*' then s.name .alias .alias
    else if c = '&' then s.name .anchor .anchor
    else if c = '!' then s.tag
    else if c = '|' && !s.inFlow then s.blockScalar true
    else if c = '>' && !s.inFlow then s.blockScalar false
    else if c = '\'' then s.quotedScalar true
    else if c = '"' then s.quotedScalar false
    else if startsPlain s.inFlow c behind then s.plainScalar
    else wrong .nextToken .noToken

/-- The tokens read until a fault: those in front of the first place where a key could begin. -/
def brokenBy (s : Scanner) (fault : Fault) : List Token :=
  let known := s.keys.foldl (fun n k => (k.map (min n ·.before)).getD n) s.count
  s.tokens.reverse.take known ++ [.broken fault]

/-- Reads all tokens, up to where the text is malformed. Every token but the last takes a character
at least. -/
def all : (fuel : Nat) → Scanner → List Token
  | 0, s => s.tokens.reverse
  | fuel + 1, s =>
    if s.finished then s.tokens.reverse
    else match s.next.bind dropStale with
      | .ok s => all fuel s
      | .error fault => s.brokenBy fault

end Scanner

/-- Whether a character may stand in a text at all. -/
def isAllowed (c : Char) : Bool :=
  c = '\t' || c = '\n' || c = '\r' || (' ' ≤ c && c ≤ '~') || c = '\x85' ||
    ('\xa0' ≤ c && c ≤ '\ufffd') || 0x10000 ≤ c.toNat

/-- The tokens of a text. -/
def Token.ofText (s : List Char) : List Token :=
  let allowed := (s.takeWhile isAllowed).length
  if allowed < s.length then [.broken (.control (octetsOf allowed s))]
  else Scanner.all (s.length + 2) { cursor := { rest := s } }

end Assay.Yaml
