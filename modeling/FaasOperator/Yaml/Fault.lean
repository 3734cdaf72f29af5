/-
# `FaasOperator.Yaml.Fault` — what can be wrong with a YAML text

The fault, where it is, and what was being read when it was found.
-/
import FaasOperator.Yaml.Cursor

namespace FaasOperator.Yaml

inductive Activity where
  | nextToken
  | simpleKey
  | directive
  | versionDirective
  | tagDirective
  | tagHandleDirective
  | anchor
  | alias
  | tag
  | blockScalar
  | quotedScalar
  | plainScalar
  | tagDirectiveBody
  | tagHandleBody
  | tagBody
  | quotedScalarBody
  | node
  | blockNode
  | flowNode
  | blockSequence
  | blockMapping
  | flowSequence
  | flowMapping
deriving DecidableEq, Repr

/-- How the activity is told. -/
def Activity.text : Activity → String
  | .nextToken => "while scanning for the next token"
  | .simpleKey => "while scanning a simple key"
  | .directive => "while scanning a directive"
  | .versionDirective => "while scanning a %YAML directive"
  | .tagDirective => "while scanning a %TAG directive"
  | .tagHandleDirective => "while scanning a tag directive"
  | .anchor => "while scanning an anchor"
  | .alias => "while scanning an alias"
  | .tag => "while scanning a tag"
  | .blockScalar => "while scanning a block scalar"
  | .quotedScalar => "while scanning a quoted scalar"
  | .plainScalar => "while scanning a plain scalar"
  | .tagDirectiveBody => "while parsing a %TAG directive"
  | .tagHandleBody => "while parsing a tag directive"
  | .tagBody => "while parsing a tag"
  | .quotedScalarBody => "while parsing a quoted scalar"
  | .node => "while parsing a node"
  | .blockNode => "while parsing a block node"
  | .flowNode => "while parsing a flow node"
  | .blockSequence => "while parsing a block collection"
  | .blockMapping => "while parsing a block mapping"
  | .flowSequence => "while parsing a flow sequence"
  | .flowMapping => "while parsing a flow mapping"

inductive Fault where
  | noToken
  | missingColon
  | misplacedEntry
  | misplacedKey
  | misplacedValue
  | unknownDirective
  | missingDirectiveName
  | oddDirectiveName
  | missingLineEnd
  | missingVersion
  | missingVersionPoint
  | longVersion
  | missingBlank
  | missingBlankOrBreak
  | missingName
  | missingTagEnd
  | missingTagMark
  | missingTagText
  | missingOctet
  | oddLeadingOctet
  | oddTrailingOctet
  | zeroIndentation
  | tabForIndentation
  | tabInIndentation
  | documentMarkInScalar
  | endInScalar
  | unknownEscape
  | missingHexDigit
  | noSuchCharacter
  | colonBeforeIndicator
  | missingDocumentStart
  | repeatedVersion
  | unknownVersion
  | repeatedTagHandle
  | unknownTagHandle
  | missingContent
  | missingDash
  | missingKey
  | missingCommaOrBracket
  | missingCommaOrBrace
deriving DecidableEq, Repr

/-- How the fault is told. -/
def Fault.text : Fault → String
  | .noToken => "found character that cannot start any token"
  | .missingColon => "could not find expected ':'"
  | .misplacedEntry => "block sequence entries are not allowed in this context"
  | .misplacedKey => "mapping keys are not allowed in this context"
  | .misplacedValue => "mapping values are not allowed in this context"
  | .unknownDirective => "found unknown directive name"
  | .missingDirectiveName => "could not find expected directive name"
  | .oddDirectiveName => "found unexpected non-alphabetical character"
  | .missingLineEnd => "did not find expected comment or line break"
  | .missingVersion => "did not find expected version number"
  | .missingVersionPoint => "did not find expected digit or '.' character"
  | .longVersion => "found extremely long version number"
  | .missingBlank => "did not find expected whitespace"
  | .missingBlankOrBreak => "did not find expected whitespace or line break"
  | .missingName => "did not find expected alphabetic or numeric character"
  | .missingTagEnd => "did not find the expected '>'"
  | .missingTagMark => "did not find expected '!'"
  | .missingTagText => "did not find expected tag URI"
  | .missingOctet => "did not find URI escaped octet"
  | .oddLeadingOctet => "found an incorrect leading UTF-8 octet"
  | .oddTrailingOctet => "found an incorrect trailing UTF-8 octet"
  | .zeroIndentation => "found an indentation indicator equal to 0"
  | .tabForIndentation => "found a tab character where an indentation space is expected"
  | .tabInIndentation => "found a tab character that violates indentation"
  | .documentMarkInScalar => "found unexpected document indicator"
  | .endInScalar => "found unexpected end of stream"
  | .unknownEscape => "found unknown escape character"
  | .missingHexDigit => "did not find expected hexdecimal number"
  | .noSuchCharacter => "found invalid Unicode character escape code"
  | .colonBeforeIndicator => "found unexpected ':'"
  | .missingDocumentStart => "did not find expected <document start>"
  | .repeatedVersion => "found duplicate %YAML directive"
  | .unknownVersion => "found incompatible YAML document"
  | .repeatedTagHandle => "found duplicate %TAG directive"
  | .unknownTagHandle => "found undefined tag handle"
  | .missingContent => "did not find expected node content"
  | .missingDash => "did not find expected '-' indicator"
  | .missingKey => "did not find expected key"
  | .missingCommaOrBracket => "did not find expected ',' or ']'"
  | .missingCommaOrBrace => "did not find expected ',' or '\x7d'"

/-- A fault, the place it was found at, and what was being read, from where on. -/
structure Flaw where
  fault : Fault
  place : Mark
  reading : Option (Activity × Mark)
deriving DecidableEq, Repr

namespace Flaw

/-- How the flaw is told.  Where the reading began is told only if it is another place. -/
def message (f : Flaw) : String :=
  f.fault.text ++ f.place.suffix ++
    match f.reading with
    | none => ""
    | some (activity, mark) =>
        ", " ++ activity.text ++ (if mark = f.place then "" else mark.suffix)

end Flaw

end FaasOperator.Yaml
