-- What is wrong with a pattern, and where. A message shows the pattern with marks under the part
-- that it is about.
import LayerLint.Text.Blank

namespace LayerLint.Pattern

/-! ## Places -/

/-- A place in a pattern: a line and a column, both counted from one. -/
structure Place where
  line : Nat
  column : Nat
  deriving DecidableEq, Repr

namespace Place

def start : Place := ⟨1, 1⟩

/-- The place after a character. -/
def after (p : Place) (c : Char) : Place :=
  if c = '\n' then ⟨p.line + 1, 1⟩ else ⟨p.line, p.column + 1⟩

/-- Whether a place comes before another. -/
def before (p q : Place) : Bool :=
  p.line < q.line || (p.line == q.line && p.column < q.column)

end Place

/-- A part of a pattern, from a place up to another. -/
structure Span where
  first : Place
  stop : Place
  deriving DecidableEq, Repr

namespace Span

/-- The empty part at a place. -/
def empty (p : Place) : Span := ⟨p, p⟩

def isOneLine (s : Span) : Bool := s.first.line == s.stop.line

/-- Whether a part is shown before another. -/
def precedes (s t : Span) : Bool :=
  s.first.before t.first || (s.first == t.first && !t.stop.before s.stop)

end Span

/-! ## Kinds -/

/-- What is wrong with a pattern. -/
inductive FaultKind where
  | classEscapeInvalid
  | classRangeInvalid
  | classRangeLiteral
  | classUnclosed
  | decimalEmpty
  | decimalInvalid
  | escapeHexEmpty
  | escapeHexInvalid
  | escapeHexInvalidDigit
  | escapeUnexpectedEnd
  | escapeUnrecognized
  | flagDanglingNegation
  | flagDuplicate
  | flagRepeatedNegation
  | flagUnexpectedEnd
  | flagUnrecognized
  | groupNameDuplicate
  | groupNameEmpty
  | groupNameInvalid
  | groupNameUnexpectedEnd
  | groupUnclosed
  | groupUnopened
  | nestLimitExceeded (limit : Nat)
  | repetitionCountInvalid
  | repetitionCountEmpty
  | repetitionCountUnclosed
  | repetitionMissing
  | wordBoundaryUnclosed
  | wordBoundaryUnrecognized
  | wordBoundaryUnexpectedEnd
  | unicodeClassInvalid
  | backreference
  | lookAround
  | unicodeNotAllowed
  | invalidUtf8
  | propertyNotFound
  | propertyValueNotFound
  deriving DecidableEq, Repr

def FaultKind.text : FaultKind → String
  | .classEscapeInvalid => "invalid escape sequence found in character class"
  | .classRangeInvalid => "invalid character class range, the start must be <= the end"
  | .classRangeLiteral => "invalid range boundary, must be a literal"
  | .classUnclosed => "unclosed character class"
  | .decimalEmpty => "decimal literal empty"
  | .decimalInvalid => "decimal literal invalid"
  | .escapeHexEmpty => "hexadecimal literal empty"
  | .escapeHexInvalid => "hexadecimal literal is not a Unicode scalar value"
  | .escapeHexInvalidDigit => "invalid hexadecimal digit"
  | .escapeUnexpectedEnd => "incomplete escape sequence, reached end of pattern prematurely"
  | .escapeUnrecognized => "unrecognized escape sequence"
  | .flagDanglingNegation => "dangling flag negation operator"
  | .flagDuplicate => "duplicate flag"
  | .flagRepeatedNegation => "flag negation operator repeated"
  | .flagUnexpectedEnd => "expected flag but got end of regex"
  | .flagUnrecognized => "unrecognized flag"
  | .groupNameDuplicate => "duplicate capture group name"
  | .groupNameEmpty => "empty capture group name"
  | .groupNameInvalid => "invalid capture group character"
  | .groupNameUnexpectedEnd => "unclosed capture group name"
  | .groupUnclosed => "unclosed group"
  | .groupUnopened => "unopened group"
  | .nestLimitExceeded limit =>
    s!"exceed the maximum number of nested parentheses/brackets ({limit})"
  | .repetitionCountInvalid =>
    "invalid repetition count range, the start must be <= the end"
  | .repetitionCountEmpty => "repetition quantifier expects a valid decimal"
  | .repetitionCountUnclosed => "unclosed counted repetition"
  | .repetitionMissing => "repetition operator missing expression"
  | .wordBoundaryUnclosed =>
    "special word boundary assertion is either unclosed or contains an invalid character"
  | .wordBoundaryUnrecognized =>
    "unrecognized special word boundary assertion, valid choices are: start, end, " ++
      "start-half or end-half"
  | .wordBoundaryUnexpectedEnd =>
    "found either the beginning of a special word boundary or a bounded repetition on a \\b " ++
      "with an opening brace, but no closing brace"
  | .unicodeClassInvalid => "invalid Unicode character class"
  | .backreference => "backreferences are not supported"
  | .lookAround => "look-around, including look-ahead and look-behind, is not supported"
  | .unicodeNotAllowed => "Unicode not allowed here"
  | .invalidUtf8 => "pattern can match invalid UTF-8"
  | .propertyNotFound => "Unicode property not found"
  | .propertyValueNotFound => "Unicode property value not found"

/-- A fault in a part of a pattern; some faults are about an earlier part as well. -/
structure Fault where
  kind : FaultKind
  span : Span
  other : Option Span
  deriving DecidableEq, Repr

/-! ## Marks -/

/-- The marks for parts of one line, which are given from left to right. -/
def marks (column : Nat) : List Span → List Char
  | [] => []
  | s :: rest =>
    let blanks := s.first.column - 1 - column
    let width := max 1 (s.stop.column - s.first.column)
    List.replicate blanks ' ' ++ List.replicate width '^' ++
      marks (column + blanks + width) rest

namespace Fault

/-- The parts that a fault is about, in order. -/
def spans (f : Fault) : List Span :=
  match f.other with
  | none => [f.span]
  | some other => if f.span.precedes other then [f.span, other] else [other, f.span]

/-- The line of a pattern behind a margin, with its marks under it if it has any. -/
def drawLine (f : Fault) (margin : List Char) (blank : Nat) (number : Nat) (line : List Char) :
    List Char :=
  let here := f.spans.filter fun s => s.isOneLine && s.first.line == number
  let under :=
    match here with
    | [] => []
    | spans => List.replicate blank ' ' ++ marks 0 spans ++ ['\n']
  margin ++ line ++ '\n' :: under

/-- The number of a line, as wide as the widest one. -/
def lineNumber (width number : Nat) : List Char :=
  let digits := (toString number).toList
  List.replicate (width - digits.length) ' ' ++ digits

/-- The lines of a pattern with marks. Lines are numbered if there are several of them. -/
def draw (f : Fault) (pattern : List Char) : List Char :=
  let lines := Text.lines pattern
  let count := if pattern.getLast? = some '\n' then lines.length + 1 else lines.length
  let numbered := lines.zipIdx 1
  if count ≤ 1 then
    numbered.flatMap fun (line, number) => f.drawLine [' ', ' ', ' ', ' '] 4 number line
  else
    let width := (toString count).length
    numbered.flatMap fun (line, number) =>
      f.drawLine (lineNumber width number ++ [':', ' ']) (width + 2) number line

/-- Where a part that has several lines begins and ends. -/
def extent (s : Span) : String :=
  s!"on line {s.first.line} (column {s.first.column}) through line {s.stop.line} "
    ++ s!"(column {s.stop.column - 1})"

/-- The message about a pattern. -/
def message (f : Fault) (pattern : String) : String :=
  let cs := pattern.toList
  let drawn := String.ofList (f.draw cs)
  if cs.contains '\n' then
    let rule := String.ofList (List.replicate 79 '~') ++ "\n"
    let long := f.spans.filter fun s => !s.isOneLine
    let notes := if long.isEmpty then "" else "\n".intercalate (long.map extent) ++ "\n"
    "regex parse error:\n" ++ rule ++ drawn ++ rule ++ notes ++ "error: " ++ f.kind.text
  else "regex parse error:\n" ++ drawn ++ "error: " ++ f.kind.text

end Fault

end LayerLint.Pattern
