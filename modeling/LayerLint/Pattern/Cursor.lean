-- Reading a pattern from left to right.
import LayerLint.Pattern.Fault

namespace LayerLint.Pattern

/-- What is left of a pattern, the place where that begins, and whether blanks and comments in it
are passed over. -/
structure Cursor where
  rest : List Char
  place : Place
  loose : Bool

namespace Cursor

def ofPattern (pattern : List Char) : Cursor := ⟨pattern, .start, false⟩

def atEnd (c : Cursor) : Bool := c.rest.isEmpty

/-- Whether the next character is a given one. -/
def isAt (c : Cursor) (char : Char) : Bool := c.rest.head? == some char

/-- The empty part before the next character. -/
def here (c : Cursor) : Span := .empty c.place

/-- The part that is the next character. -/
def charSpan (c : Cursor) : Span :=
  match c.rest with
  | [] => c.here
  | char :: _ => ⟨c.place, c.place.after char⟩

/-- The part from a place up to the next character. -/
def since (c : Cursor) (first : Place) : Span := ⟨first, c.place⟩

def fail {α : Type} (kind : FaultKind) (span : Span) : Except Fault α := .error ⟨kind, span, none⟩

/-- Passes the next character. -/
def next (c : Cursor) : Cursor :=
  match c.rest with
  | [] => c
  | char :: rest => { c with rest := rest, place := c.place.after char }

/-- Passes blanks and comments; a comment ends with its line. -/
def passBlanks (inComment : Bool) (place : Place) : List Char → Place × List Char
  | [] => (place, [])
  | char :: rest =>
    if inComment then passBlanks (char != '\n') (place.after char) rest
    else if Text.isBlank char then passBlanks false (place.after char) rest
    else if char = '#' then passBlanks true (place.after char) rest
    else (place, char :: rest)

/-- Passes blanks and comments where they do not count. -/
def skip (c : Cursor) : Cursor :=
  if c.loose then
    let (place, rest) := passBlanks false c.place c.rest
    { c with rest := rest, place := place }
  else c

/-- Passes the next character and what does not count after it. -/
def step (c : Cursor) : Cursor := c.next.skip

/-- Passes a text if it comes next. -/
def takeText? (c : Cursor) (text : String) : Option Cursor :=
  if text.toList.isPrefixOf c.rest then some (text.toList.foldl (fun c _ => c.next) c) else none

/-- The character after the next one. -/
def second? (c : Cursor) : Option Char := (c.rest.drop 1).head?

/-- The first character of a text that counts when the next item of a class is looked for. After
the mark of a comment the character that follows it is taken. -/
def firstCounting (marked : Bool) : List Char → Option Char
  | [] => none
  | char :: rest =>
    if Text.isBlank char then firstCounting marked rest
    else if !marked && char == '#' then firstCounting true rest
    else some char

/-- The character after the next one that counts. -/
def secondCounting? (c : Cursor) : Option Char :=
  if c.loose then
    match firstCounting false (c.rest.drop 1) with
    | some char => some char
    | none => c.second?
  else c.second?

/-- Takes characters while a test holds, passing what does not count between them. -/
def takeWhile (p : Char → Bool) : Nat → Cursor → List Char × Cursor
  | 0, c => ([], c)
  | fuel + 1, c =>
    match c.rest with
    | [] => ([], c)
    | char :: _ =>
      if p char then
        let (taken, after) := takeWhile p fuel c.step
        (char :: taken, after)
      else ([], c)

end Cursor

end LayerLint.Pattern
