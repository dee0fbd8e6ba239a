-- Classes of characters between brackets.
import LayerLint.Pattern.Escape

namespace LayerLint.Pattern

open Cursor (fail)

/-! ## Items -/

/-- Reads one character or one escape. -/
def readClassAtom (c : Cursor) : Except Fault (Tree × Cursor) :=
  match c.rest with
  | [] => fail .classUnclosed c.here
  | '\\' :: _ => readEscape c
  | char :: _ => .ok (.literal ⟨c.charSpan, char, false⟩, c.next)

/-- What stands for a set of characters. -/
def classItem : Tree → Except Fault ClassTree
  | .literal literal => .ok (.single literal)
  | .letter span cls negated => .ok (.letter span cls negated)
  | .property span query negated => .ok (.property span query negated)
  | other => fail .classEscapeInvalid other.span

/-- What stands for one character. -/
def rangeEnd : Tree → Except Fault Literal
  | .literal literal => .ok literal
  | other => fail .classRangeLiteral other.span

/-- Reads one item, or a range of which it is the first end. A line before the closing bracket or
before another line stands for itself or for what it is a part of. -/
def readClassItem (opened : Span) (c : Cursor) : Except Fault (ClassTree × Cursor) := do
  let (first, after) ← readClassAtom c
  let after := after.skip
  if after.atEnd then fail .classUnclosed opened
  else if !after.isAt '-' || after.secondCounting? == some ']' || after.secondCounting? == some '-'
  then
    let item ← classItem first
    return (item, after)
  else
    let c := after.step
    if c.atEnd then fail .classUnclosed opened
    else
      let (last, after) ← readClassAtom c
      let low ← rangeEnd first
      let high ← rangeEnd last
      if low.char ≤ high.char then return (.range low high, after)
      else fail .classRangeInvalid ⟨low.span.first, high.span.stop⟩

/-- Reads a class with a name between colons, if one comes next. -/
def readNamedClass? (c : Cursor) : Option (ClassTree × Cursor) := do
  let inside ← c.takeText? "[:"
  let negated := inside.isAt '^'
  let inside := if negated then inside.next else inside
  let name := inside.rest.takeWhile (· != ':')
  let closing := name.foldl (fun c _ => c.next) inside
  let after ← closing.takeText? ":]"
  let cls ← NamedClass.ofName? (String.ofList name)
  return (.named (after.since c.place) cls negated, after)

/-! ## Brackets -/

/-- Lines at the start of a class, which stand for themselves. -/
def readLeadingLines (start : Place) : Nat → Cursor → Except Fault (List ClassTree × Cursor)
  | 0, c => .ok ([], c)
  | fuel + 1, c =>
    if c.isAt '-' then
      let line := ClassTree.single ⟨c.charSpan, '-', false⟩
      let after := c.step
      if after.atEnd then fail .classUnclosed (.empty start)
      else (readLeadingLines start fuel after).map fun (items, after) => (line :: items, after)
    else .ok ([], c)

/-- Reads an opening bracket with what belongs to it: the mark of a negation, lines, and a closing
bracket that comes first and stands for itself. -/
def readOpening (c : Cursor) : Except Fault (Bool × List ClassTree × Cursor) := do
  let start := c.place
  let c := c.step
  if c.atEnd then fail .classUnclosed (c.since start)
  else
    let negated := c.isAt '^'
    let c := if negated then c.step else c
    if c.atEnd then fail .classUnclosed (c.since start)
    else
      let (items, c) ← readLeadingLines start c.rest.length c
      if items.isEmpty && c.isAt ']' then
        let item := ClassTree.single ⟨c.charSpan, ']', false⟩
        let c := c.step
        if c.atEnd then fail .classUnclosed (c.since start)
        else return (negated, [item], c)
      else return (negated, items, c)

/-- One class of items, the last one first; nothing at all stands at a place. -/
def unionOf (place : Place) (items : List ClassTree) : ClassTree :=
  match items with
  | [] => .nothing (.empty place)
  | [item] => item
  | last :: _ =>
    let first := (items.getLast?.map ClassTree.span).getD last.span
    .union ⟨first.first, last.span.stop⟩ items.reverse

/-- A class that is being read: the operation that waits for its right side, and the items since,
the last one first. -/
structure OpenClass where
  opened : Span
  negated : Bool
  waiting : Option (ClassOperation × ClassTree)
  items : List ClassTree
  place : Place

namespace OpenClass

def push (o : OpenClass) (item : ClassTree) : OpenClass := { o with items := item :: o.items }

/-- What has been read so far. -/
def content (o : OpenClass) : ClassTree :=
  let right := unionOf o.place o.items
  match o.waiting with
  | none => right
  | some (operation, left) =>
    .combined ⟨left.span.first, right.span.stop⟩ operation left right

/-- Begins the right side of an operation. -/
def operate (o : OpenClass) (operation : ClassOperation) (place : Place) : OpenClass :=
  { o with waiting := some (operation, o.content), items := [], place := place }

end OpenClass

/-- The operations, which are written with two characters. -/
def operations : List (String × ClassOperation) :=
  [("&&", .intersection), ("--", .difference), ("~~", .symmetricDifference)]

/-- Takes the sign of an operation, if one comes next. -/
def takeOperation? (c : Cursor) : Option (ClassOperation × Cursor) :=
  operations.findSome? fun (sign, operation) =>
    (c.takeText? sign).map fun after => (operation, after)

mutual

/-- Reads a class. -/
def readClass : Nat → Cursor → Except Fault (ClassTree × Cursor)
  | 0, c => fail .classUnclosed c.here
  | fuel + 1, c =>
    match readOpening c with
    | .error e => .error e
    | .ok (negated, items, inside) =>
      readClassItems fuel c.place ⟨inside.since c.place, negated, none, items.reverse, inside.place⟩
        inside

/-- Reads items up to the closing bracket. -/
def readClassItems : Nat → Place → OpenClass → Cursor → Except Fault (ClassTree × Cursor)
  | 0, _, o, _ => fail .classUnclosed o.opened
  | fuel + 1, start, o, c =>
    let c := c.skip
    match c.rest with
    | [] => fail .classUnclosed o.opened
    | '[' :: _ =>
      match readNamedClass? c with
      | some (item, after) => readClassItems fuel start (o.push item) after
      | none =>
        match readClass fuel c with
        | .error e => .error e
        | .ok (item, after) => readClassItems fuel start (o.push item) after
    | ']' :: _ =>
      let after := c.next
      .ok (.bracketed (after.since start) o.negated o.content, after)
    | _ =>
      match takeOperation? c with
      | some (operation, after) =>
        readClassItems fuel start (o.operate operation after.place) after
      | none =>
        match readClassItem o.opened c with
        | .error e => .error e
        | .ok (item, after) => readClassItems fuel start (o.push item) after

end

end LayerLint.Pattern
