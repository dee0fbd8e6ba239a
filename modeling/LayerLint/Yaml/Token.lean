-- The tokens of a document.
import LayerLint.Yaml.Mark

namespace LayerLint.Yaml

/-- A scalar is written plain, as a block that keeps its lines, or in another style. Plain ones
alone are read as anything but text without a tag. -/
inductive ScalarStyle where
  | plain
  | literal
  | quoted
  deriving DecidableEq, Repr

/-- What a tag holds, as its octets spell it. -/
abbrev TagText := List UInt8

/-- The kinds of tokens. Brackets of block collections stand where the indentation changes. -/
inductive TokenKind where
  | streamStart
  | streamEnd
  | version (major minor : Nat)
  | handle (name : String) (meaning : TagText)
  | documentStart
  | documentEnd
  | blockSequenceStart
  | blockMappingStart
  | blockEnd
  | flowSequenceStart
  | flowSequenceEnd
  | flowMappingStart
  | flowMappingEnd
  | blockEntry
  | flowEntry
  | key
  | value
  | alias (name : String)
  | anchor (name : String)
  | tag (handle : String) (suffix : TagText)
  | scalar (text : String) (style : ScalarStyle)
  deriving DecidableEq, Repr

/-- A token and where it stands. -/
structure Token where
  kind : TokenKind
  start : Mark
  stop : Mark
  deriving DecidableEq, Repr

end LayerLint.Yaml
