-- What a backslash in a pattern stands for.
import LayerLint.Pattern.Cursor
import LayerLint.Pattern.Tree

namespace LayerLint.Pattern

open Cursor (fail)

/-! ## Characters by their code points -/

def isHex (c : Char) : Bool :=
  c.isDigit || ('a' ≤ c && c ≤ 'f') || ('A' ≤ c && c ≤ 'F')

/-- The worth of a digit of base sixteen. -/
def hexWorth (c : Char) : Nat :=
  if c.isDigit then c.toNat - '0'.toNat
  else if 'a' ≤ c then c.toNat - 'a'.toNat + 10
  else c.toNat - 'A'.toNat + 10

def hexValue (digits : List Char) : Nat := digits.foldl (fun n c => n * 16 + hexWorth c) 0

/-- Takes so many digits. -/
def takeHexDigits : Nat → Cursor → Except Fault (List Char × Cursor)
  | 0, c => .ok ([], c)
  | count + 1, c =>
    match c.rest with
    | [] => fail .escapeUnexpectedEnd c.here
    | digit :: _ =>
      if isHex digit then
        (takeHexDigits count c.step).map fun (digits, after) => (digit :: digits, after)
      else fail .escapeHexInvalidDigit c.charSpan

/-- Takes digits up to a closing brace. -/
def takeBracedDigits (opened : Place) : Nat → Cursor → Except Fault (List Char × Cursor)
  | 0, c => fail .escapeUnexpectedEnd (c.since opened)
  | fuel + 1, c =>
    match c.rest with
    | [] => fail .escapeUnexpectedEnd (c.since opened)
    | digit :: _ =>
      if digit = '}' then .ok ([], c)
      else if isHex digit then
        (takeBracedDigits opened fuel c.step).map fun (digits, after) => (digit :: digits, after)
      else fail .escapeHexInvalidDigit c.charSpan

/-- The character of a code point, if there is one. -/
def charOf? (digits : List Char) : Option Char :=
  let n := hexValue digits
  if n.isValidChar then some (Char.ofNat n) else none

/-- Reads a code point with a fixed number of digits, or one in braces. -/
def readHex (start : Place) (count : Nat) (c : Cursor) : Except Fault (Literal × Cursor) := do
  if c.atEnd then fail .escapeUnexpectedEnd c.here
  else if c.isAt '{' then
    let opened := c.place
    let inside := c.next.place
    let (digits, closing) ← takeBracedDigits opened c.rest.length c.step
    let after := closing.step
    if digits.isEmpty then fail .escapeHexEmpty (after.since opened)
    else
      match charOf? digits with
      | none => fail .escapeHexInvalid (closing.since inside)
      | some char => return (⟨after.since start, char, false⟩, after)
  else
    let inside := c.place
    let (digits, after) ← takeHexDigits count c
    match charOf? digits with
    | none => fail .escapeHexInvalid (after.since inside)
    | some char => return (⟨after.since start, char, count == 2⟩, after)

/-! ## Properties -/

/-- The parts of a text before and after a mark. -/
def cutAt (mark : List Char) : List Char → Option (List Char × List Char)
  | [] => none
  | c :: rest =>
    if mark.isPrefixOf (c :: rest) then some ([], (c :: rest).drop mark.length)
    else (cutAt mark rest).map fun (before, after) => (c :: before, after)

/-- What a text between braces asks for. -/
def queryOf (cs : List Char) : PropertyQuery :=
  match cutAt ['!', '='] cs with
  | some (name, value) => .value (String.ofList name) (String.ofList value) true
  | none =>
    match cutAt [':'] cs with
    | some (name, value) => .value (String.ofList name) (String.ofList value) false
    | none =>
      match cutAt ['='] cs with
      | some (name, value) => .value (String.ofList name) (String.ofList value) false
      | none => .alone (String.ofList cs)

/-- Reads a property: a name of one letter, or what stands between braces. -/
def readProperty (start : Place) (negated : Bool) (c : Cursor) : Except Fault (Tree × Cursor) :=
  if c.isAt '{' then
    let (name, closing) := Cursor.takeWhile (· != '}') c.rest.length c.step
    if closing.atEnd then fail .escapeUnexpectedEnd closing.here
    else
      let after := closing.next
      .ok (.property (after.since start) (queryOf name) negated, after)
  else
    match c.rest with
    | [] => fail .escapeUnexpectedEnd c.here
    | letter :: _ =>
      if letter = '\\' then fail .unicodeClassInvalid c.charSpan
      else
        let after := c.step
        .ok (.property (after.since start) (.alone (String.singleton letter)) negated, after)

/-! ## Word boundaries -/

def isBoundaryChar (c : Char) : Bool := c.isAlpha || c == '-'

/-- The boundaries that have names. -/
def boundaries : List (String × Look) :=
  [("start", .wordStart), ("end", .wordEnd), ("start-half", .wordStartHalf),
   ("end-half", .wordEndHalf)]

/-- Reads the name of a boundary between braces. Braces around a count are left alone. -/
def readBoundary (start : Place) (c : Cursor) : Except Fault (Tree × Cursor) :=
  let plain : Except Fault (Tree × Cursor) := .ok (.look (c.since start) .wordBoundary, c)
  if c.isAt '{' then
    let inside := c.step
    match inside.rest with
    | [] => fail .wordBoundaryUnexpectedEnd (inside.since start)
    | char :: _ =>
      if isBoundaryChar char then
        let (name, closing) := Cursor.takeWhile isBoundaryChar inside.rest.length inside
        if closing.isAt '}' then
          match boundaries.lookup (String.ofList name) with
          | some look =>
            let after := closing.next
            .ok (.look (after.since start) look, after)
          | none => fail .wordBoundaryUnrecognized (closing.since inside.place)
        else fail .wordBoundaryUnclosed (closing.since c.place)
      else plain
  else plain

/-! ## Escapes -/

/-- Characters that mean something in a pattern. -/
def isMeta (c : Char) : Bool := "\\.+*?()|[]\x7b\x7d^$#&-~".toList.contains c

/-- Characters that a backslash leaves as they are. -/
def isEscapable (c : Char) : Bool :=
  isMeta c || (c.toNat < 0x80 && !c.isAlphanum && c != '<' && c != '>')

/-- Controls that have a letter. -/
def controls : List (Char × Char) :=
  [('a', '\x07'), ('f', '\x0c'), ('t', '\t'), ('n', '\n'), ('r', '\r'), ('v', '\x0b')]

/-- Conditions that have a letter or another character. -/
def looks : List (Char × Look) :=
  [('A', .textStart), ('z', .textEnd), ('B', .notWordBoundary), ('<', .wordStart),
   ('>', .wordEnd)]

/-- Classes that have a letter. -/
def letterClasses : List (Char × LetterClass × Bool) :=
  [('d', .digit, false), ('s', .space, false), ('w', .word, false), ('D', .digit, true),
   ('S', .space, true), ('W', .word, true)]

/-- The number of digits in a code point behind a letter. -/
def hexLetters : List (Char × Nat) := [('x', 2), ('u', 4), ('U', 8)]

/-- Reads what a backslash stands for. -/
def readEscape (c : Cursor) : Except Fault (Tree × Cursor) :=
  let start := c.place
  let c := c.next
  match c.rest with
  | [] => fail .escapeUnexpectedEnd (c.since start)
  | char :: _ =>
    let after := c.next
    let span := after.since start
    if char.isDigit then fail .backreference span
    else
      match hexLetters.lookup char with
      | some count =>
        (readHex start count c.step).map fun (literal, after) => (.literal literal, after)
      | none =>
        if char = 'p' ∨ char = 'P' then readProperty start (char == 'P') c.step
        else
          match letterClasses.lookup char with
          | some (cls, negated) => .ok (.letter span cls negated, after)
          | none =>
            if isEscapable char then .ok (.literal ⟨span, char, false⟩, after)
            else if char = 'b' then readBoundary start after
            else
              match controls.lookup char with
              | some control => .ok (.literal ⟨span, control, false⟩, after)
              | none =>
                match looks.lookup char with
                | some look => .ok (.look span look, after)
                | none => fail .escapeUnrecognized span

end LayerLint.Pattern
