-- The tree of a template.

namespace LayerLint.Template

/-- An operand of a command. A group is a pipeline in parentheses. -/
inductive Operand where
  | field (chain : List String)
  | variable (name : String) (chain : List String)
  | function (name : String)
  | group (stages : List (List Operand)) (chain : List String)
  | text (value : String)
  | number (spelling : String)
  | character (value : Char)
  | boolean (value : Bool)
  | nil
  deriving Repr, Inhabited

/-- A stage of a pipeline: what is called, and its arguments. -/
abbrev Command := List Operand

/-- A pipeline: the names that its value is given to, whether they have a value already, and the
stages. -/
structure Pipeline where
  names : List String
  assigns : Bool
  stages : List Command
  line : Nat
  deriving Repr, Inhabited

/-- The kinds of blocks. -/
inductive Control where
  | branch
  | repetition
  | scope
  deriving DecidableEq, Repr

/-- The word with which a block begins. -/
def Control.word : Control → String
  | .branch => "if"
  | .repetition => "range"
  | .scope => "with"

/-- A node of a template. -/
inductive Node where
  | text (value : String)
  | action (pipeline : Pipeline)
  | block (control : Control) (pipeline : Pipeline) (body otherwise : List Node)
  | leave (line : Nat)
  | next (line : Nat)
  deriving Repr, Inhabited

/-- The variable that every template has. -/
def rootName : String := "$"

end LayerLint.Template
