-- Reading a whole pattern: groups, choices and repetitions. Groups that are open wait on a stack.
import LayerLint.Pattern.Brackets
import LayerLint.Text.Letter

namespace LayerLint.Pattern

open Cursor (fail)

/-! ## Flags -/

/-- Flags that are being read, the last one first, with their parts; a negation is one of them. -/
abbrev FlagItems := List (Option Flag × Span)

/-- Reads flags up to the mark that ends them. -/
def readFlags (items : FlagItems) (negation : Option Span) :
    Nat → Cursor → Except Fault (FlagItems × Cursor)
  | 0, c => fail .flagUnexpectedEnd c.here
  | fuel + 1, c =>
    match c.rest with
    | [] => fail .flagUnexpectedEnd c.here
    | char :: _ =>
      if char = ':' ∨ char = ')' then
        match negation with
        | some span => fail .flagDanglingNegation span
        | none => .ok (items, c)
      else
        let flag := if char = '-' then some none else (Flag.ofChar? char).map some
        match flag with
        | none => fail .flagUnrecognized c.charSpan
        | some flag =>
          match items.lookup flag with
          | some earlier =>
            let kind := if flag.isNone then .flagRepeatedNegation else .flagDuplicate
            .error ⟨kind, c.charSpan, some earlier⟩
          | none =>
            let negation := if flag.isNone then some c.charSpan else none
            readFlags ((flag, c.charSpan) :: items) negation fuel c.next

/-- The changes that flags make; those after a negation are switched off. -/
def changesOf (on : Bool) : List (Option Flag × Span) → List FlagChange
  | [] => []
  | (none, _) :: rest => changesOf false rest
  | (some flag, _) :: rest => (flag, on) :: changesOf on rest

/-- Whether blanks count after changes of flags. -/
def looseAfter (changes : List FlagChange) (loose : Bool) : Bool :=
  (changes.lookup .ignoreBlanks).getD loose

/-! ## Groups -/

/-- Whether a character may stand in the name of a group. -/
def isNameChar (first : Bool) (c : Char) : Bool :=
  c == '_' || Text.isLetter c ||
    (!first && (c == '.' || c == '[' || c == ']' || Text.isNumber c))

/-- Reads the name of a group up to its closing mark. -/
def readName (first : Bool) : Nat → Cursor → Except Fault (List Char × Cursor)
  | 0, c => fail .groupNameUnexpectedEnd c.here
  | fuel + 1, c =>
    match c.rest with
    | [] => fail .groupNameUnexpectedEnd c.here
    | char :: _ =>
      if char = '>' then .ok ([], c)
      else if isNameChar first char then
        (readName false fuel c.next).map fun (name, after) => (char :: name, after)
      else fail .groupNameInvalid c.charSpan

/-- One level of a pattern: the group that was opened, the flags that it changes, whether blanks
counted before it, the choices that are complete, and the parts of the present one. What came last
stands first. -/
structure Level where
  opened : Span
  changes : List FlagChange
  loose : Bool
  options : List Tree
  choiceStart : Place
  parts : List Tree
  start : Place

namespace Level

def fresh (opened : Span) (changes : List FlagChange) (loose : Bool) (start : Place) : Level :=
  ⟨opened, changes, loose, [], start, [], start⟩

def push (l : Level) (part : Tree) : Level := { l with parts := part :: l.parts }

/-- The parts of the present choice as one. -/
def sequence (l : Level) (stop : Place) : Tree :=
  match l.parts with
  | [] => .empty ⟨l.start, stop⟩
  | [part] => part
  | parts => .sequence ⟨l.start, stop⟩ parts.reverse

/-- Completes a choice. -/
def choose (l : Level) (stop next : Place) : Level :=
  { l with options := l.sequence stop :: l.options, parts := [], start := next }

/-- The whole level as one. -/
def tree (l : Level) (stop : Place) : Tree :=
  match l.options with
  | [] => l.sequence stop
  | options => .choice ⟨l.choiceStart, stop⟩ (l.sequence stop :: options).reverse

end Level

/-- What is being read: the level, those around it, and the names of groups so far. -/
structure Reader where
  level : Level
  outer : List Level
  names : List (List Char × Span)
  cursor : Cursor

namespace Reader

def push (r : Reader) (part : Tree) (after : Cursor) : Reader :=
  { r with level := r.level.push part, cursor := after }

/-- Opens a group. -/
def enter (r : Reader) (opened : Span) (changes : List FlagChange) (after : Cursor) : Reader :=
  { r with
    level := .fresh opened changes r.cursor.loose after.place
    outer := r.level :: r.outer
    cursor := { after with loose := looseAfter changes r.cursor.loose } }

/-- Opens a group with a name. -/
def enterNamed (r : Reader) (opened : Span) (c : Cursor) : Except Fault Reader := do
  if c.atEnd then fail .groupNameUnexpectedEnd c.here
  else
    let (name, closing) ← readName true c.rest.length c
    let span := closing.since c.place
    if name.isEmpty then fail .groupNameEmpty (.empty c.place)
    else
      match r.names.lookup name with
      | some earlier => .error ⟨.groupNameDuplicate, span, some earlier⟩
      | none => return { (r.enter opened [] closing.next) with names := (name, span) :: r.names }

/-- Marks of groups that look around. -/
def lookArounds : List String := ["?=", "?!", "?<=", "?<!"]

/-- Reads what follows an opening parenthesis. -/
def openGroup (r : Reader) : Except Fault Reader := do
  let opened := r.cursor.charSpan
  let c := r.cursor.next.skip
  match lookArounds.findSome? c.takeText? with
  | some after => fail .lookAround ⟨opened.first, after.place⟩
  | none =>
    match ["?P<", "?<"].findSome? c.takeText? with
    | some after => r.enterNamed opened after
    | none =>
      match c.takeText? "?" with
      | none => return r.enter opened [] c
      | some after =>
        if after.atEnd then fail .groupUnclosed opened
        else
          let (items, closing) ← readFlags [] none after.rest.length after
          let changes := changesOf true items.reverse
          let rest := closing.next
          if closing.isAt ')' then
            if items.isEmpty then fail .repetitionMissing c.here
            else
              let rest := { rest with loose := looseAfter changes r.cursor.loose }
              return r.push (.flags (rest.since opened.first) changes) rest
          else return r.enter opened changes rest

/-- Closes a group. -/
def closeGroup (r : Reader) : Except Fault Reader :=
  match r.outer with
  | [] => fail .groupUnopened r.cursor.charSpan
  | level :: outer =>
    let after := { r.cursor.next with loose := r.level.loose }
    let group := Tree.group ⟨r.level.opened.first, after.place⟩ r.level.changes
      (r.level.tree r.cursor.place)
    .ok { r with level := level.push group, outer := outer, cursor := after }

/-- Completes a choice. -/
def choose (r : Reader) : Reader :=
  let after := r.cursor.next
  { r with level := r.level.choose r.cursor.place after.place, cursor := after }

/-! ## Repetitions -/

/-- Takes the last part away, which a repetition is to repeat. -/
def repeated (r : Reader) : Except Fault (Tree × Level) :=
  match r.level.parts with
  | [] => fail .repetitionMissing r.cursor.here
  | .empty _ :: _ => fail .repetitionMissing r.cursor.here
  | .flags _ _ :: _ => fail .repetitionMissing r.cursor.here
  | part :: parts => .ok (part, { r.level with parts := parts })

/-- Puts a repetition in the place of the part that it repeats. -/
def pushRepetition (r : Reader) (part : Tree) (level : Level) (least : Nat) (most : Option Nat)
    (after : Cursor) : Reader :=
  let after := if after.isAt '?' then after.next else after
  let span : Span := ⟨part.span.first, after.place⟩
  { r with level := level.push (.repetition span least most part), cursor := after }

/-- Reads a sign of repetition. -/
def repeatSign (r : Reader) (least : Nat) (most : Option Nat) : Except Fault Reader := do
  let (part, level) ← r.repeated
  return r.pushRepetition part level least most r.cursor.next

/-- The greatest count of a repetition. -/
def countLimit : Nat := Nat.pow 2 32 - 1

/-- Reads a count, with blanks around it. -/
def readCount (c : Cursor) : Except Fault Nat × Cursor :=
  let (_, plain) := Cursor.takeWhile Text.isBlank c.rest.length { c with loose := false }
  let c := { plain with loose := c.loose }
  let (digits, after) := Cursor.takeWhile Char.isDigit c.rest.length c
  let span := after.since c.place
  let (_, after) := Cursor.takeWhile Text.isBlank after.rest.length after
  let value := digits.foldl (fun n d => n * 10 + (d.toNat - '0'.toNat)) 0
  if digits.isEmpty then (fail .repetitionCountEmpty span, after)
  else if countLimit < value then (fail .decimalInvalid span, after)
  else (.ok value, after)

/-- Reads the counts of a repetition up to the closing brace. -/
def readCounts (start : Place) (c : Cursor) : Except Fault (Nat × Option Nat × Cursor) := do
  if c.atEnd then fail .repetitionCountUnclosed (c.since start)
  else
    let (least, after) := readCount c
    if after.atEnd then fail .repetitionCountUnclosed (after.since start)
    else if after.isAt ',' then
      let c := after.step
      if c.atEnd then fail .repetitionCountUnclosed (c.since start)
      else if c.isAt '}' then
        let least ← least
        return (least, none, c)
      else
        let least ← least
        let (most, after) := readCount c
        let most ← most
        return (least, some most, after)
    else
      let least ← least
      return (least, some least, after)

/-- Reads a repetition with counts. -/
def repeatCounted (r : Reader) : Except Fault Reader := do
  let start := r.cursor.place
  let (part, level) ← r.repeated
  let (least, most, closing) ← readCounts start r.cursor.step
  if closing.isAt '}' then
    let r' := r.pushRepetition part level least most closing.step
    if most.any fun most => most < least then
      fail .repetitionCountInvalid (r'.cursor.since start)
    else return r'
  else fail .repetitionCountUnclosed (closing.since start)

/-! ## Parts -/

/-- Reads one part, or a sign that works on parts. -/
def readPart (r : Reader) : Except Fault Reader :=
  let c := r.cursor
  match c.rest with
  | [] => .ok r
  | char :: _ =>
    let span := c.charSpan
    match char with
    | '(' => r.openGroup
    | ')' => r.closeGroup
    | '|' => .ok r.choose
    | '[' =>
      (readClass c.rest.length c).map fun (cls, after) =>
        match cls with
        | .bracketed span negated content => r.push (.bracketed span negated content) after
        | other => r.push (.bracketed other.span false other) after
    | '?' => r.repeatSign 0 (some 1)
    | '*' => r.repeatSign 0 none
    | '+' => r.repeatSign 1 none
    | '{' => r.repeatCounted
    | '\\' => (readEscape c).map fun (part, after) => r.push part after
    | '.' => .ok (r.push (.dot span) c.next)
    | '^' => .ok (r.push (.look span .lineStart) c.next)
    | '$' => .ok (r.push (.look span .lineEnd) c.next)
    | _ => .ok (r.push (.literal ⟨span, char, false⟩) c.next)

/-- Reads parts to the end. -/
def readParts : Nat → Reader → Except Fault Reader
  | 0, r => .ok r
  | fuel + 1, r =>
    let r := { r with cursor := r.cursor.skip }
    if r.cursor.atEnd then .ok r
    else
      match r.readPart with
      | .error e => .error e
      | .ok r => readParts fuel r

end Reader

/-! ## Depth -/

/-- How deep brackets and parentheses may stand in each other. -/
def depthLimit : Nat := 250

mutual

/-- The first part of a class that stands too deep. -/
def ClassTree.tooDeep (depth : Nat) : ClassTree → Option Span
  | .nothing _ => none
  | .single _ => none
  | .range _ _ => none
  | .named _ _ _ => none
  | .letter _ _ _ => none
  | .property _ _ _ => none
  | .bracketed span _ content =>
    if depthLimit ≤ depth then some span else content.tooDeep (depth + 1)
  | .union span items => if depthLimit ≤ depth then some span else classesTooDeep (depth + 1) items
  | .combined span _ left right =>
    if depthLimit ≤ depth then some span
    else (left.tooDeep (depth + 1)).or (right.tooDeep (depth + 1))

def classesTooDeep (depth : Nat) : List ClassTree → Option Span
  | [] => none
  | item :: rest => (item.tooDeep depth).or (classesTooDeep depth rest)

end

mutual

/-- The first part of a pattern that stands too deep. -/
def Tree.tooDeep (depth : Nat) : Tree → Option Span
  | .empty _ => none
  | .flags _ _ => none
  | .literal _ => none
  | .dot _ => none
  | .look _ _ => none
  | .letter _ _ _ => none
  | .property _ _ _ => none
  | .bracketed span _ content =>
    if depthLimit ≤ depth then some span else content.tooDeep (depth + 1)
  | .repetition span _ _ content =>
    if depthLimit ≤ depth then some span else content.tooDeep (depth + 1)
  | .group span _ content => if depthLimit ≤ depth then some span else content.tooDeep (depth + 1)
  | .choice span options =>
    if depthLimit ≤ depth then some span else treesTooDeep (depth + 1) options
  | .sequence span parts =>
    if depthLimit ≤ depth then some span else treesTooDeep (depth + 1) parts

def treesTooDeep (depth : Nat) : List Tree → Option Span
  | [] => none
  | part :: rest => (part.tooDeep depth).or (treesTooDeep depth rest)

end

/-- Reads a pattern. -/
def Tree.ofText (pattern : List Char) : Except Fault Tree := do
  let start : Reader :=
    ⟨.fresh (.empty .start) [] false .start, [], [], .ofPattern pattern⟩
  let r ← Reader.readParts (pattern.length + 1) start
  if r.outer.isEmpty then
    let tree := r.level.tree r.cursor.place
    match tree.tooDeep 0 with
    | some span => fail (.nestLimitExceeded depthLimit) span
    | none => return tree
  else fail .groupUnclosed r.level.opened

end LayerLint.Pattern
