-- Patterns with their flags worked in, and the texts that they match. The texts that patterns are
-- held against are ids of rules, which have characters below U+0080 only; classes are right for
-- those.
import LayerLint.Pattern.Reader

namespace LayerLint.Pattern

open Cursor (fail)

/-! ## Expressions -/

/-- Conditions on a place in a text, after flags. -/
inductive Condition where
  | textStart
  | textEnd
  | lineStart (carriageReturn : Bool)
  | lineEnd (carriageReturn : Bool)
  | wordBoundary
  | notWordBoundary
  | wordStart
  | wordEnd
  | wordStartHalf
  | wordEndHalf
  deriving DecidableEq, Repr

/-- A pattern without flags. With a set of characters goes the room that it takes, in octets. -/
inductive Expression where
  | chars (room : Nat) (test : Char → Bool)
  | condition (c : Condition)
  | repetition (least : Nat) (most : Option Nat) (content : Expression)
  | group (content : Expression)
  | choice (options : List Expression)
  | sequence (parts : List Expression)

/-! ## Characters -/

/-- Characters of a letter class. -/
def LetterClass.holds (cls : LetterClass) (c : Char) : Bool :=
  match cls with
  | .digit => c.isDigit
  | .space => Text.isBlank c
  | .word => c.isAlphanum || c == '_' || c == 'ſ' || c == '\u212A'

/-- Characters of a named class. -/
def NamedClass.holds (cls : NamedClass) (c : Char) : Bool :=
  match cls with
  | .alnum => c.isAlphanum
  | .alpha => c.isAlpha
  | .ascii => c.toNat < 0x80
  | .blank => c == ' ' || c == '\t'
  | .cntrl => c.toNat < 0x20 || c.toNat == 0x7F
  | .digit => c.isDigit
  | .graph => 0x20 < c.toNat && c.toNat < 0x7F
  | .lower => c.isLower
  | .print => 0x20 ≤ c.toNat && c.toNat < 0x7F
  | .punct => 0x20 < c.toNat && c.toNat < 0x7F && !c.isAlphanum
  | .space => c == ' ' || (0x09 ≤ c.toNat && c.toNat ≤ 0x0D)
  | .upper => c.isUpper
  | .word => c.isAlphanum || c == '_'
  | .xdigit => isHex c

/-- The characters that are one letter but for its case. -/
def sameLetter (c : Char) : List Char :=
  if c = 'k' ∨ c = 'K' ∨ c = '\u212A' then ['k', 'K', '\u212A']
  else if c = 's' ∨ c = 'S' ∨ c = 'ſ' then ['s', 'S', 'ſ']
  else [c.toLower, c.toUpper]

/-- A set with all that is one letter with what it holds. -/
def folded (test : Char → Bool) : Char → Bool := fun c => (sameLetter c).any test

def negatedIf (negated : Bool) (test : Char → Bool) : Char → Bool := fun c => test c != negated

/-! ## Flags -/

/-- The flags that bear on what a pattern matches. -/
structure Flags where
  ignoreCase : Bool
  multiLine : Bool
  dotMatchesAll : Bool
  unicode : Bool
  carriageReturn : Bool
  deriving DecidableEq, Repr

namespace Flags

def default : Flags := ⟨false, false, false, true, false⟩

def set (f : Flags) : FlagChange → Flags
  | (.ignoreCase, on) => { f with ignoreCase := on }
  | (.multiLine, on) => { f with multiLine := on }
  | (.dotMatchesAll, on) => { f with dotMatchesAll := on }
  | (.unicode, on) => { f with unicode := on }
  | (.carriageReturn, on) => { f with carriageReturn := on }
  | (.swapGreed, _) => f
  | (.ignoreBlanks, _) => f

def change (f : Flags) (changes : List FlagChange) : Flags := changes.foldl set f

/-- A set as it is when case does not count, if it does not. -/
def fold (f : Flags) (test : Char → Bool) : Char → Bool :=
  if f.ignoreCase then folded test else test

end Flags

/-- The negation of a set. Where characters are octets it would hold parts of characters. -/
def negate (f : Flags) (span : Span) (negated : Bool) (test : Char → Bool) :
    Except Fault (Char → Bool) :=
  if negated && !f.unicode then fail .invalidUtf8 span else .ok (negatedIf negated test)

/-! ## Sets -/

/-- The character of a literal. Where characters are octets, one above 127 is part of a character
only. -/
def Literal.resolve (f : Flags) (l : Literal) : Except Fault Char :=
  if !f.unicode && l.isOctet && 0x7F < l.char.toNat then fail .invalidUtf8 l.span else .ok l.char

/-- The character of a literal in a class, which has to be an octet where characters are. -/
def Literal.resolveInClass (f : Flags) (l : Literal) : Except Fault Char := do
  let c ← l.resolve f
  if !f.unicode && 0x7F < c.toNat then fail .unicodeNotAllowed l.span else return c

/-- The characters of a property. -/
def propertyTest (f : Flags) (span : Span) (query : PropertyQuery) (negated : Bool) :
    Except Fault (Char → Bool) :=
  if f.unicode then
    let (found, unequal) :=
      match query with
      | .alone name => (property name, false)
      | .value name value unequal => (propertyValue name value, unequal)
    match found with
    | .error .unknownProperty => fail .propertyNotFound span
    | .error .unknownValue => fail .propertyValueNotFound span
    | .ok ranges => .ok (negatedIf (negated != unequal) (f.fold (Text.inRanges ranges)))
  else fail .unicodeNotAllowed span

/-- The set of an operation. -/
def ClassOperation.apply (operation : ClassOperation) (left right : Char → Bool) : Char → Bool :=
  fun c =>
    match operation with
    | .intersection => left c && right c
    | .difference => left c && !right c
    | .symmetricDifference => left c != right c

mutual

/-- The characters of a class. -/
def ClassTree.test (f : Flags) : ClassTree → Except Fault (Char → Bool)
  | .nothing _ => .ok fun _ => false
  | .single literal => (literal.resolveInClass f).map fun char c => c == char
  | .range first last => do
    let low ← first.resolveInClass f
    let high ← last.resolveInClass f
    return fun c => low ≤ c && c ≤ high
  | .named span cls negated => negate f span negated (f.fold cls.holds)
  | .letter span cls negated => negate f span negated cls.holds
  | .property span query negated => propertyTest f span query negated
  | .bracketed span negated content => do
    let test ← content.test f
    negate f span negated (f.fold test)
  | .union _ items => anyOf f items
  | .combined _ operation left right => do
    let l ← left.test f
    let r ← right.test f
    return operation.apply (f.fold l) (f.fold r)

def anyOf (f : Flags) : List ClassTree → Except Fault (Char → Bool)
  | [] => .ok fun _ => false
  | item :: rest => do
    let test ← item.test f
    let others ← anyOf f rest
    return fun c => test c || others c

end

/-! ## Room

The automaton of a pattern may not take more room than a limit. What a set takes hangs on how many
sequences of octets it stands for. -/

/-- The room of one state. -/
def stateRoom : Nat := 32

/-- The room of a set of a few characters, and of nearly all characters. -/
def smallRoom : Nat := 2 * stateRoom

def wideRoom : Nat := 14 * stateRoom

/-- The room of a large property. -/
def propertyRoom : Nat := 1450 * stateRoom

def LetterClass.room : LetterClass → Nat
  | .digit => 150 * stateRoom
  | .space => 20 * stateRoom
  | .word => propertyRoom

mutual

def ClassTree.room : ClassTree → Nat
  | .nothing _ => 0
  | .single _ => stateRoom / 4
  | .range _ _ => stateRoom / 4
  | .named _ _ negated => if negated then wideRoom else smallRoom
  | .letter _ cls _ => cls.room
  | .property _ _ _ => propertyRoom
  | .bracketed _ negated content =>
    stateRoom + content.room + if negated then wideRoom else 0
  | .union _ items => classesRoom items
  | .combined _ _ left right => left.room + right.room

def classesRoom : List ClassTree → Nat
  | [] => 0
  | item :: rest => item.room + classesRoom rest

end

mutual

/-- The room of an expression. -/
def Expression.room : Expression → Nat
  | .chars room _ => room
  | .condition _ => stateRoom
  | .repetition least most content =>
    match most with
    | none => max least 1 * content.room + stateRoom
    | some most => least * content.room + (most - least) * (content.room + stateRoom)
  | .group content => content.room + 2 * stateRoom
  | .choice options => stateRoom + expressionsRoom options
  | .sequence parts => expressionsRoom parts

def expressionsRoom : List Expression → Nat
  | [] => 0
  | part :: rest => part.room + expressionsRoom rest

end

/-! ## Working flags in -/

/-- A condition after flags. -/
def Look.resolve (f : Flags) : Look → Condition
  | .lineStart => if f.multiLine then .lineStart f.carriageReturn else .textStart
  | .lineEnd => if f.multiLine then .lineEnd f.carriageReturn else .textEnd
  | .textStart => .textStart
  | .textEnd => .textEnd
  | .wordBoundary => .wordBoundary
  | .notWordBoundary => .notWordBoundary
  | .wordStart => .wordStart
  | .wordEnd => .wordEnd
  | .wordStartHalf => .wordStartHalf
  | .wordEndHalf => .wordEndHalf

/-- What a point matches. -/
def dotTest (f : Flags) : Char → Bool := fun c =>
  f.dotMatchesAll || (c != '\n' && !(f.carriageReturn && c == '\r'))

/-- What a literal matches. -/
def literalTest (f : Flags) (char : Char) : Char → Bool :=
  let test : Char → Bool := fun c => c == char
  if f.unicode || char.toNat < 0x80 then f.fold test else test

mutual

/-- Works flags into a pattern; flags that are set in it hold for what follows in its group. -/
def Tree.resolve (f : Flags) : Tree → Except Fault (Expression × Flags)
  | .empty _ => .ok (.sequence [], f)
  | .flags _ changes => .ok (.sequence [], f.change changes)
  | .literal literal =>
    (literal.resolve f).map fun char =>
      (.chars (char.utf8Size * stateRoom) (literalTest f char), f)
  | .dot span =>
    if f.unicode then .ok (.chars wideRoom (dotTest f), f) else fail .invalidUtf8 span
  | .look _ look => .ok (.condition (look.resolve f), f)
  | .letter span cls negated =>
    (negate f span negated cls.holds).map fun test =>
      (.chars (if f.unicode then cls.room else smallRoom) test, f)
  | .property span query negated =>
    (propertyTest f span query negated).map fun test => (.chars propertyRoom test, f)
  | .bracketed span negated content =>
    (ClassTree.test f (.bracketed span negated content)).map fun test =>
      (.chars (ClassTree.room (.bracketed span negated content)) test, f)
  | .repetition _ least most content =>
    (content.resolve f).map fun (e, _) => (.repetition least most e, f)
  | .group _ changes content =>
    (content.resolve (f.change changes)).map fun (e, _) => (.group e, f)
  | .choice _ options =>
    (resolveAll f options).map fun (es, after) => (.choice es, after)
  | .sequence _ parts =>
    (resolveAll f parts).map fun (es, after) => (.sequence es, after)

def resolveAll (f : Flags) : List Tree → Except Fault (List Expression × Flags)
  | [] => .ok ([], f)
  | part :: rest =>
    match part.resolve f with
    | .error e => .error e
    | .ok (e, f) => (resolveAll f rest).map fun (es, after) => (e :: es, after)

end

/-! ## Matching

A set of places is led to the places where an expression may end. -/

/-- Whether a word character stands at an index. -/
def wordAt (text : Array Char) (i : Nat) : Bool := text[i]?.any LetterClass.word.holds

/-- Whether a word character stands before an index. -/
def wordBefore (text : Array Char) : Nat → Bool
  | 0 => false
  | i + 1 => wordAt text i

/-- The character before an index. -/
def charBefore? (text : Array Char) : Nat → Option Char
  | 0 => none
  | i + 1 => text[i]?

/-- Whether a condition holds at an index of a text. -/
def Condition.holds (text : Array Char) (c : Condition) (i : Nat) : Bool :=
  let before := charBefore? text i
  let after := text[i]?
  match c with
  | .textStart => before.isNone
  | .textEnd => after.isNone
  | .lineStart false => before.all (· == '\n')
  | .lineStart true => before.all fun b => b == '\n' || (b == '\r' && after != some '\n')
  | .lineEnd false => after.all (· == '\n')
  | .lineEnd true => after.all fun a => a == '\r' || (a == '\n' && before != some '\r')
  | .wordBoundary => wordBefore text i != wordAt text i
  | .notWordBoundary => wordBefore text i == wordAt text i
  | .wordStart => !wordBefore text i && wordAt text i
  | .wordEnd => wordBefore text i && !wordAt text i
  | .wordStartHalf => !wordBefore text i
  | .wordEndHalf => !wordAt text i

/-- Applies a step to places a number of times, or until it changes nothing. -/
def iterate (step : List Nat → List Nat) : Nat → List Nat → List Nat
  | 0, places => places
  | n + 1, places =>
    let next := step places
    if next = places then places else iterate step n next

/-- Adds places that are not there yet. -/
def addPlaces (places more : List Nat) : List Nat := (places ++ more).eraseDups

mutual

/-- The places where an expression may end that begins at given places. A repetition that goes on
longer than the text gives the same places again and again. -/
def Expression.ends (text : Array Char) : Expression → List Nat → List Nat
  | .chars _ test, places =>
    places.filterMap fun i => if text[i]?.any test then some (i + 1) else none
  | .condition c, places => places.filter (c.holds text)
  | .repetition least most content, places =>
    let bound := text.size + 1
    let reached := iterate (fun ps => content.ends text ps) (min least bound) places
    let further := match most with
      | none => bound
      | some most => min (most - least) bound
    iterate (fun ps => addPlaces ps (content.ends text ps)) further reached
  | .group content, places => content.ends text places
  | .choice options, places => endsOfAny text options places
  | .sequence parts, places => endsOfAll text parts places

def endsOfAny (text : Array Char) : List Expression → List Nat → List Nat
  | [], _ => []
  | option :: rest, places => addPlaces (option.ends text places) (endsOfAny text rest places)

def endsOfAll (text : Array Char) : List Expression → List Nat → List Nat
  | [], places => places
  | part :: rest, places => endsOfAll text rest (part.ends text places)

end

/-- Whether an expression matches some part of a text. -/
def Expression.occursIn (e : Expression) (text : String) : Bool :=
  let cs := text.toList.toArray
  !(e.ends cs (List.range (cs.size + 1))).isEmpty

end LayerLint.Pattern
