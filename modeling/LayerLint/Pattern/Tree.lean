-- The parts of a pattern as they are written.
import LayerLint.Pattern.Fault
import LayerLint.Pattern.Property

namespace LayerLint.Pattern

/-! ## Flags -/

/-- What a flag changes: whether capital and small letters are one, whether lines have ends of
their own, whether a point matches a line feed, which repetitions are greedy, whether characters
are those of Unicode, whether a carriage return ends a line, and whether blanks count. -/
inductive Flag where
  | ignoreCase
  | multiLine
  | dotMatchesAll
  | swapGreed
  | unicode
  | carriageReturn
  | ignoreBlanks
  deriving DecidableEq, Repr

/-- The letter of a flag. -/
def Flag.ofChar? : Char → Option Flag
  | 'i' => some .ignoreCase
  | 'm' => some .multiLine
  | 's' => some .dotMatchesAll
  | 'U' => some .swapGreed
  | 'u' => some .unicode
  | 'R' => some .carriageReturn
  | 'x' => some .ignoreBlanks
  | _ => none

/-- A flag that is switched on or off. -/
abbrev FlagChange := Flag × Bool

/-! ## Classes -/

/-- Classes that have a letter. -/
inductive LetterClass where
  | digit
  | space
  | word
  deriving DecidableEq, Repr

/-- Classes that have a name between colons, all within the characters below U+0080. -/
inductive NamedClass where
  | alnum
  | alpha
  | ascii
  | blank
  | cntrl
  | digit
  | graph
  | lower
  | print
  | punct
  | space
  | upper
  | word
  | xdigit
  deriving DecidableEq, Repr

namespace NamedClass

/-- The classes by their names. -/
def table : List (String × NamedClass) :=
  [("alnum", .alnum), ("alpha", .alpha), ("ascii", .ascii), ("blank", .blank), ("cntrl", .cntrl),
   ("digit", .digit), ("graph", .graph), ("lower", .lower), ("print", .print), ("punct", .punct),
   ("space", .space), ("upper", .upper), ("word", .word), ("xdigit", .xdigit)]

def ofName? (name : String) : Option NamedClass := table.lookup name

end NamedClass

/-- A property: by its own name or with a value. -/
inductive PropertyQuery where
  | alone (name : String)
  | value (name : String) (value : String) (unequal : Bool)
  deriving DecidableEq, Repr

/-- A single character. One that is written with two digits of base sixteen stands for an octet
where characters are not those of Unicode. -/
structure Literal where
  span : Span
  char : Char
  isOctet : Bool
  deriving DecidableEq, Repr

/-- What two classes make together. -/
inductive ClassOperation where
  | intersection
  | difference
  | symmetricDifference
  deriving DecidableEq, Repr

/-- What stands between brackets. -/
inductive ClassTree where
  | nothing (span : Span)
  | single (literal : Literal)
  | range (first last : Literal)
  | named (span : Span) (cls : NamedClass) (negated : Bool)
  | letter (span : Span) (cls : LetterClass) (negated : Bool)
  | property (span : Span) (query : PropertyQuery) (negated : Bool)
  | bracketed (span : Span) (negated : Bool) (content : ClassTree)
  | union (span : Span) (items : List ClassTree)
  | combined (span : Span) (operation : ClassOperation) (left right : ClassTree)
  deriving Repr

def ClassTree.span : ClassTree → Span
  | .nothing span => span
  | .single literal => literal.span
  | .range first last => ⟨first.span.first, last.span.stop⟩
  | .named span _ _ => span
  | .letter span _ _ => span
  | .property span _ _ => span
  | .bracketed span _ _ => span
  | .union span _ => span
  | .combined span _ _ _ => span

/-! ## Patterns -/

/-- Conditions on a place in a text. -/
inductive Look where
  | lineStart
  | lineEnd
  | textStart
  | textEnd
  | wordBoundary
  | notWordBoundary
  | wordStart
  | wordEnd
  | wordStartHalf
  | wordEndHalf
  deriving DecidableEq, Repr

/-- A pattern, or a part of one. -/
inductive Tree where
  | empty (span : Span)
  | flags (span : Span) (changes : List FlagChange)
  | literal (value : Literal)
  | dot (span : Span)
  | look (span : Span) (condition : Look)
  | letter (span : Span) (cls : LetterClass) (negated : Bool)
  | property (span : Span) (query : PropertyQuery) (negated : Bool)
  | bracketed (span : Span) (negated : Bool) (content : ClassTree)
  | repetition (span : Span) (least : Nat) (most : Option Nat) (content : Tree)
  | group (span : Span) (changes : List FlagChange) (content : Tree)
  | choice (span : Span) (options : List Tree)
  | sequence (span : Span) (parts : List Tree)
  deriving Repr

namespace Tree

def span : Tree → Span
  | .empty span => span
  | .flags span _ => span
  | .literal value => value.span
  | .dot span => span
  | .look span _ => span
  | .letter span _ _ => span
  | .property span _ _ => span
  | .bracketed span _ _ => span
  | .repetition span _ _ _ => span
  | .group span _ _ => span
  | .choice span _ => span
  | .sequence span _ => span

end Tree

end LayerLint.Pattern
