-- Everything that can be wrong with a document, and the wording of it.
import LayerLint.Number.Decimal
import LayerLint.Text.Quoted
import LayerLint.Text.Utf8
import LayerLint.Yaml.Mark

namespace LayerLint.Yaml

/-! ## Faults of the octets -/

/-- What is wrong with the octets of a document. -/
inductive OctetProblem where
  | encoding (fault : Text.Utf8Fault)
  | controlCharacter
  deriving DecidableEq, Repr

def OctetProblem.message : OctetProblem → String
  | .encoding .leadingOctet => "invalid leading UTF-8 octet"
  | .encoding .trailingOctet => "invalid trailing UTF-8 octet"
  | .encoding .overlong => "invalid length of a UTF-8 sequence"
  | .encoding .notACharacter => "invalid Unicode character"
  | .encoding .incomplete => "incomplete UTF-8 octet sequence"
  | .controlCharacter => "control characters are not allowed"

/-! ## Faults of the grammar -/

/-- What the grammar does not allow. -/
inductive Problem where
  | noColon
  | entryNotAllowed
  | keyNotAllowed
  | valueNotAllowed
  | noToken
  | unknownDirective
  | noDirectiveName
  | badDirectiveName
  | noLineEnd
  | noVersionPoint
  | longVersion
  | noVersion
  | noSpace
  | noSpaceOrBreak
  | noName
  | noBang
  | noVerbatimEnd
  | noTagUri
  | noEscapedOctet
  | badLeadingOctet
  | badTrailingOctet
  | zeroIndentation
  | tabInIndentation
  | tabBelowIndentation
  | documentIndicator
  | endOfText
  | unknownEscape
  | noHexadecimal
  | badCodePoint
  | unexpectedColon
  | noDocumentStart
  | duplicateVersion
  | otherVersion
  | duplicateHandle
  | unknownHandle
  | noEntry
  | noKey
  | noSequenceEnd
  | noMappingEnd
  | noContent
  deriving DecidableEq, Repr

def Problem.message : Problem → String
  | .noColon => "could not find expected ':'"
  | .entryNotAllowed => "block sequence entries are not allowed in this context"
  | .keyNotAllowed => "mapping keys are not allowed in this context"
  | .valueNotAllowed => "mapping values are not allowed in this context"
  | .noToken => "found character that cannot start any token"
  | .unknownDirective => "found unknown directive name"
  | .noDirectiveName => "could not find expected directive name"
  | .badDirectiveName => "found unexpected non-alphabetical character"
  | .noLineEnd => "did not find expected comment or line break"
  | .noVersionPoint => "did not find expected digit or '.' character"
  | .longVersion => "found extremely long version number"
  | .noVersion => "did not find expected version number"
  | .noSpace => "did not find expected whitespace"
  | .noSpaceOrBreak => "did not find expected whitespace or line break"
  | .noName => "did not find expected alphabetic or numeric character"
  | .noBang => "did not find expected '!'"
  | .noVerbatimEnd => "did not find the expected '>'"
  | .noTagUri => "did not find expected tag URI"
  | .noEscapedOctet => "did not find URI escaped octet"
  | .badLeadingOctet => "found an incorrect leading UTF-8 octet"
  | .badTrailingOctet => "found an incorrect trailing UTF-8 octet"
  | .zeroIndentation => "found an indentation indicator equal to 0"
  | .tabInIndentation => "found a tab character where an indentation space is expected"
  | .tabBelowIndentation => "found a tab character that violates indentation"
  | .documentIndicator => "found unexpected document indicator"
  | .endOfText => "found unexpected end of stream"
  | .unknownEscape => "found unknown escape character"
  | .noHexadecimal => "did not find expected hexdecimal number"
  | .badCodePoint => "found invalid Unicode character escape code"
  | .unexpectedColon => "found unexpected ':'"
  | .noDocumentStart => "did not find expected <document start>"
  | .duplicateVersion => "found duplicate %YAML directive"
  | .otherVersion => "found incompatible YAML document"
  | .duplicateHandle => "found duplicate %TAG directive"
  | .unknownHandle => "found undefined tag handle"
  | .noEntry => "did not find expected '-' indicator"
  | .noKey => "did not find expected key"
  | .noSequenceEnd => "did not find expected ',' or ']'"
  | .noMappingEnd => "did not find expected ',' or '\x7d'"
  | .noContent => "did not find expected node content"

/-- What was being read when the grammar was broken. -/
inductive Context where
  | simpleKey
  | directive
  | versionDirective
  | handleDirective
  | handleDirectiveUri
  | handleDirectiveStart
  | handleDirectiveEnd
  | anchor
  | alias
  | tag
  | tagUri
  | blockScalar
  | quotedScalar
  | escape
  | plainScalar
  | nextToken
  | blockSequence
  | blockMapping
  | flowSequence
  | flowMapping
  | blockNode
  | flowNode
  | node
  deriving DecidableEq, Repr

def Context.message : Context → String
  | .simpleKey => "while scanning a simple key"
  | .directive => "while scanning a directive"
  | .versionDirective => "while scanning a %YAML directive"
  | .handleDirective => "while scanning a %TAG directive"
  | .handleDirectiveUri => "while parsing a %TAG directive"
  | .handleDirectiveStart => "while scanning a tag directive"
  | .handleDirectiveEnd => "while parsing a tag directive"
  | .anchor => "while scanning an anchor"
  | .alias => "while scanning an alias"
  | .tag => "while scanning a tag"
  | .tagUri => "while parsing a tag"
  | .blockScalar => "while scanning a block scalar"
  | .quotedScalar => "while scanning a quoted scalar"
  | .escape => "while parsing a quoted scalar"
  | .plainScalar => "while scanning a plain scalar"
  | .nextToken => "while scanning for the next token"
  | .blockSequence => "while parsing a block collection"
  | .blockMapping => "while parsing a block mapping"
  | .flowSequence => "while parsing a flow sequence"
  | .flowMapping => "while parsing a flow mapping"
  | .blockNode => "while parsing a block node"
  | .flowNode => "while parsing a flow node"
  | .node => "while parsing a node"

/-! ## Faults of the content -/

/-- What stands in the document where something else is wanted. -/
inductive Found where
  | unit
  | sequence
  | mapping
  | boolean (value : Bool)
  | integer (value : Int)
  | longInteger (value : Int)
  | float (value : Binary64)
  | text (value : String)
  deriving DecidableEq, Repr

def Found.message : Found → String
  | .unit => "unit value"
  | .sequence => "sequence"
  | .mapping => "map"
  | .boolean value => s!"boolean `{value}`"
  | .integer value => s!"integer `{value}`"
  | .longInteger value =>
    let width := if value < 0 then "i128" else "u128"
    s!"integer `{value}` as {width}"
  | .float value =>
    let text := Decimal.pointed.write value
    s!"floating point `{text}`"
  | .text value => "string " ++ Text.quoted value

/-- A key that stands twice in one mapping, as messages name it. -/
inductive RepeatedKey where
  | null
  | boolean (value : Bool)
  | number (text : String)
  | text (value : String)
  | other
  deriving DecidableEq, Repr

/-- What is wrong with the content of a document that keeps the grammar. -/
inductive ContentProblem where
  | emptyTag
  | wrongType (found : Found) (wanted : String)
  | wrongValue (found : Found) (wanted : String)
  | repeatedKey (key : RepeatedKey)
  | repeatedField (name : String)
  | unknownField (name : String) (known : List String)
  deriving DecidableEq, Repr

/-- A name in the quotes that messages put around names. -/
def ticked (name : String) : String := s!"`{name}`"

def ContentProblem.message : ContentProblem → String
  | .emptyTag => "empty YAML tag is not allowed"
  | .wrongType found wanted => "invalid type: " ++ found.message ++ ", expected " ++ wanted
  | .wrongValue found wanted => "invalid value: " ++ found.message ++ ", expected " ++ wanted
  | .repeatedKey .null => "duplicate entry with null key"
  | .repeatedKey (.boolean value) => s!"duplicate entry with key `{value}`"
  | .repeatedKey (.number text) => "duplicate entry with key " ++ text
  | .repeatedKey (.text value) => "duplicate entry with key " ++ Text.quoted value
  | .repeatedKey .other => "duplicate entry in YAML map"
  | .repeatedField name => "duplicate field " ++ ticked name
  | .unknownField name known =>
    "unknown field " ++ ticked name ++ ", expected one of " ++
      ", ".intercalate (known.map ticked)

/-- The way from the root of a document to a node. -/
inductive Way where
  | root
  | item (parent : Way) (index : Nat)
  | entry (parent : Way) (key : String)
  | alias (parent : Way)
  | unnamed (parent : Way)
  deriving DecidableEq, Repr

namespace Way

mutual

def text : Way → String
  | .root => "."
  | .item parent index => parent.text ++ s!"[{index}]"
  | .entry parent key => parent.leading ++ key
  | .alias parent => parent.text
  | .unnamed parent => parent.leading ++ "?"

/-- A way in front of a key: nothing for the root. -/
def leading : Way → String
  | .root => ""
  | .item parent index => parent.text ++ s!"[{index}]."
  | .entry parent key => parent.leading ++ key ++ "."
  | .alias parent => parent.text ++ "."
  | .unnamed parent => parent.leading ++ "?."

end

end Way

/-! ## Faults -/

/-- Why a document cannot be read. -/
inductive Fault where
  /-- The octets at an offset are no text. -/
  | octets (problem : OctetProblem) (offset : Nat)
  /-- The text breaks the grammar at a position, with what was being read and where it began. -/
  | grammar (problem : Problem) (mark : Mark) (context : Option (Context × Mark))
  /-- An alias names no anchor. -/
  | unknownAnchor (mark : Mark)
  /-- Collections are nested too deep. -/
  | tooDeep (mark : Mark)
  /-- Aliases are followed too often. -/
  | tooManyAliases
  /-- A document ends where a value is wanted. -/
  | endOfDocument
  /-- More than one document stands in the text. -/
  | manyDocuments
  /-- The content is not what is wanted, at a position and a way once they are known. -/
  | content (problem : ContentProblem) (place : Option (Mark × Way))
  deriving DecidableEq, Repr

namespace Fault

/-- Content without a place is at the place where it was being read. -/
def placed (fault : Fault) (mark : Mark) (way : Way) : Fault :=
  match fault with
  | .content problem none => .content problem (some (mark, way))
  | other => other

/-- The position that goes with a fault, if it has one. -/
def mark? : Fault → Option Mark
  | .octets _ _ => some Mark.start
  | .grammar _ mark _ => some mark
  | .unknownAnchor mark => some mark
  | .tooDeep mark => some mark
  | .content _ (some (mark, _)) => some mark
  | .content _ none => none
  | .tooManyAliases => none
  | .endOfDocument => none
  | .manyDocuments => none

/-- The line that goes with a fault, counting from one. -/
def line? (fault : Fault) : Option Nat := fault.mark?.map (·.line + 1)

/-- A position after a message; the first position of a text is left out. -/
def atMark (mark : Mark) : String := if mark.atOrigin then "" else " at " ++ mark.text

def message : Fault → String
  | .octets problem offset =>
    problem.message ++ (if offset = 0 then "" else s!" at position {offset}")
  | .grammar problem mark none => problem.message ++ atMark mark
  | .grammar problem mark (some (context, start)) =>
    problem.message ++ atMark mark ++ ", " ++ context.message ++
      (if start.line = mark.line ∧ start.column = mark.column then "" else atMark start)
  | .unknownAnchor mark => "unknown anchor" ++ atMark mark
  | .tooDeep mark => "recursion limit exceeded" ++ atMark mark
  | .tooManyAliases => "repetition limit exceeded"
  | .endOfDocument => "EOF while parsing a value"
  | .manyDocuments =>
    "deserializing from YAML containing more than one document is not supported"
  | .content problem none => problem.message
  | .content problem (some (mark, way)) =>
    let lead := if way.text = "." then "" else way.text ++ ": "
    lead ++ problem.message ++ atMark mark

end Fault

end LayerLint.Yaml
