-- What a run says, line by line, and in which tone.
import LayerLint.Text.Affix

namespace LayerLint

/-- The tone of a line. -/
inductive Tone where
  | message
  | success
  | warning
  | error
  deriving DecidableEq, Repr

def Tone.name : Tone → String
  | .message => "message"
  | .success => "success"
  | .warning => "warning"
  | .error => "error"

/-- What was said, in order. -/
structure Transcript where
  lines : List (Tone × String)
  deriving DecidableEq, Repr

namespace Transcript

def empty : Transcript := ⟨[]⟩

def say (t : Transcript) (tone : Tone) (text : String) : Transcript := ⟨t.lines ++ [(tone, text)]⟩

/-- What was said in one tone. -/
def inTone (t : Transcript) (tone : Tone) : List String :=
  (t.lines.filter fun line => line.1 = tone).map (·.2)

/-- Whether anything said in one tone contains a text. -/
def mentions (t : Transcript) (tone : Tone) (part : String) : Bool :=
  (t.inTone tone).any fun text => Text.contains text part

/-- The messages, with line feeds between them. -/
def printed (t : Transcript) : String := "\n".intercalate (t.inTone .message)

end Transcript

end LayerLint
