-- Documents: the events of each, with every alias tied to the event that it stands for.
import LayerLint.Yaml.Event

namespace LayerLint.Yaml

/-- What stands at a place of a document. -/
inductive Item where
  | nothing
  | alias (anchor : Nat)
  | scalar (tag : Option TagText) (text : String) (style : ScalarStyle)
  | sequenceStart (tag : Option TagText)
  | sequenceEnd
  | mappingStart (tag : Option TagText)
  | mappingEnd
  deriving DecidableEq, Repr

/-- A document: its items with their positions, the items that anchors name, and the fault after
the last item. -/
structure Document where
  items : Array (Item × Mark)
  anchors : List (Nat × Nat)
  fault : Option Fault
  deriving Repr

namespace Document

/-- A document of which nothing is read. -/
def empty : Document := ⟨#[], [], none⟩

/-- Adds an item. -/
def add (d : Document) (item : Item) (mark : Mark) : Document :=
  { d with items := d.items.push (item, mark) }

/-- Adds an item that may have an anchor. The number of an anchor is the number of names known
before it, and a later anchor takes the place of an earlier one of its number. -/
def addAnchored (d : Document) (names : List (String × Nat)) (anchor : Option String) (item : Item)
    (mark : Mark) : Document × List (String × Nat) :=
  match anchor with
  | none => (d.add item mark, names)
  | some name =>
    let number := names.length
    ({ d.add item mark with anchors := (number, d.items.size) :: d.anchors },
      (name, number) :: names.filter (·.1 != name))

/-- Reads one document; returns also the events after it, unless it ends with the stream or with
a fault. -/
def ofEvents (end_ : Option Fault) :
    Document → List (String × Nat) → List Event → Document × Option (List Event)
  | d, _, [] => ({ d with fault := end_ }, none)
  | d, names, e :: rest =>
    let goOn (r : Document × List (String × Nat)) := ofEvents end_ r.1 r.2 rest
    match e.kind with
    | .documentStart => ofEvents end_ d names rest
    | .documentEnd => (d, some rest)
    | .alias name =>
      match names.lookup name with
      | some number => ofEvents end_ (d.add (.alias number) e.mark) names rest
      | none => ({ d with fault := some (.unknownAnchor e.mark) }, none)
    | .scalar anchor tag text style => goOn (d.addAnchored names anchor (.scalar tag text style) e.mark)
    | .sequenceStart anchor tag => goOn (d.addAnchored names anchor (.sequenceStart tag) e.mark)
    | .mappingStart anchor tag => goOn (d.addAnchored names anchor (.mappingStart tag) e.mark)
    | .sequenceEnd => ofEvents end_ (d.add .sequenceEnd e.mark) names rest
    | .mappingEnd => ofEvents end_ (d.add .mappingEnd e.mark) names rest

/-- The first document of a stream, and whether anything but the end of the stream follows it. A
stream without documents holds one in which nothing stands. -/
def first (s : EventStream) : Document × Bool :=
  match s.events, s.fault with
  | [], none => (empty.add .nothing Mark.start, false)
  | _, _ =>
    match ofEvents s.fault empty [] s.events with
    | (d, none) => (d, false)
    | (d, some rest) => (d, !rest.isEmpty || s.fault.isSome)

/-- The first document of a text. -/
def ofOctets (bytes : List UInt8) : Document × Bool :=
  match Source.ofOctets bytes with
  | .error fault => ({ empty with fault := some fault }, false)
  | .ok source => first (.ofTokens (.ofSource source))

/-- The item that an anchor names. -/
def anchored (d : Document) (anchor : Nat) : Nat := (d.anchors.lookup anchor).getD 0

end Document

end LayerLint.Yaml
