-- Patterns that choose texts, such as the ids of rules.
import LayerLint.Pattern.Expression

namespace LayerLint

/-- Why a text is no pattern. -/
inductive PatternError where
  | malformed (fault : Pattern.Fault)
  | tooLarge
  deriving DecidableEq, Repr

/-- A pattern. -/
structure Pattern where
  expression : Pattern.Expression

namespace Pattern

/-- The room that a pattern may take, in octets. -/
def roomLimit : Nat := 10 * Nat.pow 2 20

/-- Reads a pattern. -/
def ofText (text : String) : Except PatternError Pattern :=
  match Tree.ofText text.toList with
  | .error fault => .error (.malformed fault)
  | .ok tree =>
    match tree.resolve .default with
    | .error fault => .error (.malformed fault)
    | .ok (e, _) => if roomLimit < e.room then .error .tooLarge else .ok ⟨e⟩

/-- Whether a pattern matches some part of a text. -/
def matchesIn (p : Pattern) (text : String) : Bool := p.expression.occursIn text

end Pattern

/-- The message about a text that is no pattern. -/
def PatternError.message (text : String) : PatternError → String
  | .malformed fault => fault.message text
  | .tooLarge => s!"Compiled regex exceeds size limit of {Pattern.roomLimit} bytes."

end LayerLint
