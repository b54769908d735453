/-!
# Why a text is no document

A malformed text has one fault, the first that a reader meets: a problem, and what was being read.
A text can also hold a character that stands in no text at all, name an anchor that no node has, or
hold a second document.
-/

namespace Assay.Yaml

/-- What was being read. -/
inductive Activity where
  | simpleKey
  | nextToken
  | directive
  | versionDirective
  | handleDirective
  | handleMark
  | handleEnd
  | handleStem
  | anchor
  | alias
  | tag
  | tagText
  | blockScalar
  | quotedScalar
  | quotedEscape
  | plainScalar
  | node
  | blockNode
  | flowNode
  | blockSequence
  | blockMapping
  | flowSequence
  | flowMapping
deriving DecidableEq

/-- An activity in words. -/
def Activity.text : Activity → String
  | .simpleKey => "while scanning a simple key"
  | .nextToken => "while scanning for the next token"
  | .directive => "while scanning a directive"
  | .versionDirective => "while scanning a %YAML directive"
  | .handleDirective => "while scanning a %TAG directive"
  | .handleMark => "while scanning a tag directive"
  | .handleEnd => "while parsing a tag directive"
  | .handleStem => "while parsing a %TAG directive"
  | .anchor => "while scanning an anchor"
  | .alias => "while scanning an alias"
  | .tag => "while scanning a tag"
  | .tagText => "while parsing a tag"
  | .blockScalar => "while scanning a block scalar"
  | .quotedScalar => "while scanning a quoted scalar"
  | .quotedEscape => "while parsing a quoted scalar"
  | .plainScalar => "while scanning a plain scalar"
  | .node => "while parsing a node"
  | .blockNode => "while parsing a block node"
  | .flowNode => "while parsing a flow node"
  | .blockSequence => "while parsing a block collection"
  | .blockMapping => "while parsing a block mapping"
  | .flowSequence => "while parsing a flow sequence"
  | .flowMapping => "while parsing a flow mapping"

/-- What is wrong. -/
inductive Problem where
  | noColon
  | itemNotAllowed
  | keyNotAllowed
  | valueNotAllowed
  | noToken
  | noDirectiveName
  | directiveName
  | unknownDirective
  | noLineEnd
  | noVersionMark
  | noVersionNumber
  | longVersionNumber
  | noBlank
  | noBlankOrBreak
  | noNameCharacter
  | noTagMark
  | noTagText
  | noClosingAngle
  | noOctet
  | leadingOctet
  | trailingOctet
  | zeroIndentation
  | tabInIndentation
  | tabInsteadOfIndentation
  | documentMark
  | endOfText
  | unknownEscape
  | noHexadecimal
  | noCharacterNumber
  | strayColon
  | noDocumentStart
  | undefinedHandle
  | noContent
  | noItemMark
  | noKey
  | noSequenceMark
  | noMappingMark
  | secondVersion
  | wrongVersion
  | secondHandle
deriving DecidableEq

/-- A problem in words. -/
def Problem.text : Problem → String
  | .noColon => "could not find expected ':'"
  | .itemNotAllowed => "block sequence entries are not allowed in this context"
  | .keyNotAllowed => "mapping keys are not allowed in this context"
  | .valueNotAllowed => "mapping values are not allowed in this context"
  | .noToken => "found character that cannot start any token"
  | .noDirectiveName => "could not find expected directive name"
  | .directiveName => "found unexpected non-alphabetical character"
  | .unknownDirective => "found unknown directive name"
  | .noLineEnd => "did not find expected comment or line break"
  | .noVersionMark => "did not find expected digit or '.' character"
  | .noVersionNumber => "did not find expected version number"
  | .longVersionNumber => "found extremely long version number"
  | .noBlank => "did not find expected whitespace"
  | .noBlankOrBreak => "did not find expected whitespace or line break"
  | .noNameCharacter => "did not find expected alphabetic or numeric character"
  | .noTagMark => "did not find expected '!'"
  | .noTagText => "did not find expected tag URI"
  | .noClosingAngle => "did not find the expected '>'"
  | .noOctet => "did not find URI escaped octet"
  | .leadingOctet => "found an incorrect leading UTF-8 octet"
  | .trailingOctet => "found an incorrect trailing UTF-8 octet"
  | .zeroIndentation => "found an indentation indicator equal to 0"
  | .tabInIndentation => "found a tab character that violates indentation"
  | .tabInsteadOfIndentation => "found a tab character where an indentation space is expected"
  | .documentMark => "found unexpected document indicator"
  | .endOfText => "found unexpected end of stream"
  | .unknownEscape => "found unknown escape character"
  | .noHexadecimal => "did not find expected hexdecimal number"
  | .noCharacterNumber => "found invalid Unicode character escape code"
  | .strayColon => "found unexpected ':'"
  | .noDocumentStart => "did not find expected <document start>"
  | .undefinedHandle => "found undefined tag handle"
  | .noContent => "did not find expected node content"
  | .noItemMark => "did not find expected '-' indicator"
  | .noKey => "did not find expected key"
  | .noSequenceMark => "did not find expected ',' or ']'"
  | .noMappingMark => "did not find expected ',' or '\x7d'"
  | .secondVersion => "found duplicate %YAML directive"
  | .wrongVersion => "found incompatible YAML document"
  | .secondHandle => "found duplicate %TAG directive"

/-- The first fault of a text. -/
inductive Fault where
  | malformed (problem : Problem) (activity : Option Activity)
  /-- A character that may stand in no text, behind so many octets. -/
  | control (octets : Nat)
  | unknownAnchor
  | secondDocument
deriving DecidableEq

/-- A fault in words. -/
def Fault.message : Fault → String
  | .malformed problem none => problem.text
  | .malformed problem (some activity) => problem.text ++ ", " ++ activity.text
  | .control octets =>
    "control characters are not allowed" ++
      (if octets = 0 then "" else " at position " ++ toString octets)
  | .unknownAnchor => "unknown anchor"
  | .secondDocument =>
    "deserializing from YAML containing more than one document is not supported"

/-- Refuses a text because of a problem met during an activity. -/
def wrong {α : Type} (activity : Activity) (problem : Problem) : Except Fault α :=
  .error (.malformed problem (some activity))

end Assay.Yaml
