-- Positions in a document, and the characters that the grammar tells apart.

namespace LayerLint.Yaml

/-- A position in the text: characters, lines and columns before it. -/
structure Mark where
  index : Nat
  line : Nat
  column : Nat
  deriving DecidableEq, Repr, Inhabited

namespace Mark

def start : Mark := ⟨0, 0, 0⟩

/-- The first position of a text; messages do not name it. -/
def atOrigin (m : Mark) : Bool := m.line == 0 && m.column == 0

/-- The position as messages name it, counting from one. -/
def text (m : Mark) : String :=
  if m.atOrigin then s!"position {m.index}"
  else
    let line := m.line + 1
    let column := m.column + 1
    s!"line {line} column {column}"

end Mark

/-! ## Classes of characters -/

/-- Characters that break a line. -/
def isBreak (c : Char) : Bool :=
  c == '\r' || c == '\n' || c == '\u0085' || c == '\u2028' || c == '\u2029'

/-- Characters that may stand between two tokens of a line. -/
def isGap (c : Char) : Bool := c == ' ' || c == '\t'

/-- Characters of names of anchors, tags and directives. -/
def isWord (c : Char) : Bool := c.isAlphanum || c == '_' || c == '-'

/-- The worth of a hexadecimal digit. -/
def hexWorth? (c : Char) : Option Nat :=
  if c.isDigit then some (c.toNat - '0'.toNat)
  else if 'a' ≤ c ∧ c ≤ 'f' then some (c.toNat - 'a'.toNat + 10)
  else if 'A' ≤ c ∧ c ≤ 'F' then some (c.toNat - 'A'.toNat + 10)
  else none

end LayerLint.Yaml
