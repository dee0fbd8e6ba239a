-- How text looks on a terminal.

namespace LayerLint

/-- A look is the codes that switch it on. -/
structure Look where
  codes : List Nat
  deriving DecidableEq, Repr

namespace Look

def none : Look := ⟨[]⟩

/-- The sequence that a terminal takes as a code. -/
def sequence (code : Nat) : String := s!"\x1b[{code}m"

/-- Text with a look: the codes, the text, and the code that switches all off. Text without a
look stays as it is. -/
def apply (look : Look) (text : String) : String :=
  match look.codes with
  | [] => text
  | codes => String.join (codes.map sequence) ++ text ++ sequence 0

end Look

/-- The looks of what is printed. -/
structure Theme where
  error : Look
  suggestion : Look
  success : Look
  warning : Look
  dim : Look
  highlight : Look
  deriving DecidableEq, Repr

namespace Theme

/-- Red and bold, blue, green, yellow, dim, bold. -/
def coloured : Theme := ⟨⟨[31, 1]⟩, ⟨[34]⟩, ⟨[32]⟩, ⟨[33]⟩, ⟨[2]⟩, ⟨[1]⟩⟩

def plain : Theme := ⟨.none, .none, .none, .none, .none, .none⟩

/-- The theme of a terminal that shows colours or does not. -/
def ofColour (colour : Bool) : Theme := if colour then coloured else plain

def showSuccess (t : Theme) (text : String) : String := t.success.apply ("✓ " ++ text)

def showWarning (t : Theme) (text : String) : String := t.warning.apply ("⚠ " ++ text)

def showError (t : Theme) (text : String) : String := t.error.apply ("✗ " ++ text)

end Theme

end LayerLint
