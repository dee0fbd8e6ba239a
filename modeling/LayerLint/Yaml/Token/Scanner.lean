-- The state in which tokens are read, and the small moves of which all reading is made.
import LayerLint.Yaml.Source
import LayerLint.Yaml.Token

namespace LayerLint.Yaml

/-- A place where a key without its own indicator may have begun: the number of its first token,
and whether nothing but a key can stand there. -/
structure PendingKey where
  required : Bool
  number : Nat
  mark : Mark
  deriving DecidableEq, Repr

/-- The state of reading: the text that is left, the tokens that wait for delivery, the columns
of the open block collections, and one possible key for each level of flow collections. -/
structure Scanner where
  rest : List Char
  cutOff : Option Nat
  mark : Mark
  queue : List Token
  delivered : Nat
  indent : Int
  indents : List Int
  flowLevel : Nat
  keyAllowed : Bool
  keys : List (Option PendingKey)
  ended : Bool
  deriving Repr

/-- A step of reading. -/
abbrev Scan := StateT Scanner (Except Fault)

namespace Scanner

def ofSource (s : Source) : Scanner where
  rest := s.characters
  cutOff := s.cutOff
  mark := Mark.start
  queue := [⟨.streamStart, Mark.start, Mark.start⟩]
  delivered := 0
  indent := -1
  indents := []
  flowLevel := 0
  keyAllowed := true
  keys := [none]
  ended := false

/-- Whether the character so many places ahead satisfies a test; the end of the text does not. -/
def looksAt (s : Scanner) (ahead : Nat) (p : Char → Bool) : Bool := (s.rest[ahead]?).any p

/-- Whether a gap, a line break or the end of the text stands so many places ahead. -/
def blankAt (s : Scanner) (ahead : Nat) : Bool :=
  match s.rest[ahead]? with
  | none => true
  | some c => isGap c || isBreak c

/-- Whether a line break or the end of the text comes next. -/
def atLineEnd (s : Scanner) : Bool :=
  match s.rest.head? with
  | none => true
  | some c => isBreak c

def atBreak (s : Scanner) : Bool := s.looksAt 0 isBreak

def inFlow (s : Scanner) : Bool := 0 < s.flowLevel

/-- Whether one of the two marks that end a document stands at the start of this line. -/
def atDocumentIndicator (s : Scanner) : Bool :=
  s.mark.column == 0 &&
    (['-', '-', '-'].isPrefixOf s.rest || ['.', '.', '.'].isPrefixOf s.rest) && s.blankAt 3

/-- Passes over characters of one line. -/
def advance (s : Scanner) (n : Nat) : Scanner :=
  { s with
    rest := s.rest.drop n
    mark := { s.mark with index := s.mark.index + n, column := s.mark.column + n } }

/-- Passes over a line break; the two characters of a return with a feed are one break. -/
def nextLine (s : Scanner) (width : Nat) : Scanner :=
  { s with
    rest := s.rest.drop width
    mark := ⟨s.mark.index + width, s.mark.line + 1, 0⟩ }

end Scanner

namespace Scan

/-- Stops with a fault at the present position. -/
def fail {α : Type} (problem : Problem) (context : Option (Context × Mark)) : Scan α := do
  throw (.grammar problem (← get).mark context)

/-- Looks ahead: where the text ends in a sequence that is cut off, it cannot be looked at. -/
def lookAhead (n : Nat) : Scan Unit := do
  let s ← get
  match s.cutOff with
  | some offset =>
    if (s.rest.take n).length < n then throw (.octets (.encoding .incomplete) offset)
  | none => pure ()

/-- Passes over characters of one line. -/
def advance (n : Nat) : Scan Unit := modify (·.advance n)

/-- Takes the characters of this line that satisfy a test. -/
def takeWhile (p : Char → Bool) : Scan (List Char) := do
  let taken := (← get).rest.takeWhile p
  advance taken.length
  lookAhead 1
  pure taken

/-- Passes over the characters of this line that satisfy a test. -/
def skipWhile (p : Char → Bool) : Scan Unit := do
  let _ ← takeWhile p

/-- Takes a line break, if one comes next. Three kinds of breaks become a line feed and two
remain what they are. -/
def takeBreak : Scan (List Char) := do
  lookAhead 2
  match (← get).rest with
  | '\r' :: '\n' :: _ => modify (·.nextLine 2); pure ['\n']
  | c :: _ =>
    if c == '\r' || c == '\n' || c == '\u0085' then modify (·.nextLine 1); pure ['\n']
    else if isBreak c then modify (·.nextLine 1); pure [c]
    else pure []
  | [] => pure []

/-- Passes over a comment, if one comes next. -/
def skipComment : Scan Unit := do
  if (← get).looksAt 0 (· == '#') then skipWhile (fun c => !isBreak c)

end Scan

end LayerLint.Yaml
