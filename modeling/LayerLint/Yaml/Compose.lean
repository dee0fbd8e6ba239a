-- The tree that a document describes. An alias is read by reading its anchor's items again, so a
-- document may describe more than it holds; two limits bound that.
import LayerLint.Yaml.Document
import LayerLint.Yaml.Node
import LayerLint.Yaml.Scalar

namespace LayerLint.Yaml

/-- How deep collections may be nested. -/
def depthLimit : Nat := 128

/-- How often an alias may be followed, for each item of the document. -/
def aliasLimit : Nat := 100

/-- A step of reading items; the state counts the aliases that were followed. -/
abbrev Reading := StateT Nat (Except Fault)

/-- What a reader makes of a document that stands alone in its text. -/
def Reading.ofOctets {α : Type} (read : Document → Reading α) (bytes : List UInt8) :
    Except Fault α := do
  let (d, more) := Document.ofOctets bytes
  let (result, _) ← (read d).run 0
  match d.fault with
  | some fault => throw fault
  | none => if more then throw .manyDocuments else pure result

namespace Document

/-- The item at a place and its position. -/
def item (d : Document) (place : Nat) : Reading (Item × Mark) :=
  match d.items[place]? with
  | some item => pure item
  | none => throw (d.fault.getD .endOfDocument)

/-- Follows an alias to the place of its anchor. -/
def follow (d : Document) (anchor : Nat) : Reading Nat := do
  let count := (← get) + 1
  set count
  if d.items.size * aliasLimit < count then throw .tooManyAliases
  pure (d.anchored anchor)

/-- Gives a fault of the content its place. -/
def placing {α : Type} (mark : Mark) (way : Way) (act : Reading α) : Reading α := fun s =>
  match act s with
  | .error fault => .error (fault.placed mark way)
  | .ok r => .ok r

def wrong {α : Type} (problem : ContentProblem) : Reading α := throw (.content problem none)

/-- A fuel that lasts for every way into the document: on each level it passes over the items
before it, and over a tag and an alias. -/
def fuel (d : Document) : Nat := (depthLimit + 2) * (d.items.size + 4)

/-- The tag of a node that stays around it: one that begins with a bang. -/
def ownTag (tag : Option TagText) : Option String :=
  match tag with
  | some (bang :: rest) =>
    if bang = '!'.toUInt8 then
      (Text.decode? (if rest.isEmpty then [bang] else rest)).map String.ofList
    else none
  | _ => none

end Document

namespace Node

/-- The tag of a kind that all documents share. -/
def commonTag (kind : String) : TagText := Text.encode ("tag:yaml.org,2002:" ++ kind)

/-- What messages say is wanted where any node is. -/
def anyWanted : String := "any YAML value"

/-- The node of a plain scalar; a message about one too long for a node says what is wanted. -/
def ofPlain (wanted s : String) : Reading Node :=
  match Scalar.ofPlain s with
  | .null => pure .null
  | .boolean b => pure (.boolean b)
  | .integer n => pure (.integer n)
  | .longInteger n => Document.wrong (.wrongType (.longInteger n) wanted)
  | .float x => pure (.float x)
  | .text s => pure (.text s)

/-- The node of a scalar. Tags of the common kinds ask for a value of their kind. -/
def ofScalar (wanted : String) (tag : Option TagText) (text : String) (style : ScalarStyle)
    (underTag : Bool) : Reading Node :=
  let untagged : Reading Node :=
    match style with
    | .plain => ofPlain wanted text
    | .literal | .quoted => pure (.text text)
  if underTag then untagged
  else
    match tag with
    | none => untagged
    | some octets =>
      let wrongText (kind : String) : Reading Node :=
        Document.wrong (.wrongValue (.text text) kind)
      if octets = commonTag "bool" then
        match Scalar.boolean? text with
        | some b => pure (.boolean b)
        | none => wrongText "a boolean"
      else if octets = commonTag "int" then
        match Scalar.integer? text.toList with
        | some (.integer n) => pure (.integer n)
        | some (.longInteger n) => Document.wrong (.wrongType (.longInteger n) wanted)
        | _ => wrongText "an integer"
      else if octets = commonTag "float" then
        match Scalar.float? text with
        | some x => pure (.float x)
        | none => wrongText "a float"
      else if octets = commonTag "null" then
        if Scalar.isNull text then pure .null else wrongText "null"
      else if octets.head? = some '!'.toUInt8 then untagged
      else pure (.text text)

mutual

/-- Reads the node at a place; returns also the place after it. Under a tag of the document's own
the node's tag is already read. -/
def compose (d : Document) : Nat → Nat → Nat → Way → Bool → Reading (Node × Nat)
  | 0, _, _, _, _ => throw .endOfDocument
  | fuel + 1, place, depth, way, underTag => do
    let (item, mark) ← d.item place
    let tag :=
      match item with
      | .scalar tag _ _ | .sequenceStart tag | .mappingStart tag =>
        if underTag then none else Document.ownTag tag
      | _ => none
    Document.placing mark way do
      match tag with
      | some tag =>
        let (content, next) ← compose d fuel place depth way true
        pure (.tagged tag content, next)
      | none =>
        match item with
        | .alias anchor =>
          let target ← d.follow anchor
          let (node, _) ← compose d fuel target depth (.alias way) false
          pure (node, place + 1)
        | .scalar tag words style =>
          pure (← ofScalar anyWanted tag words style underTag, place + 1)
        | .sequenceStart _ =>
          match depth with
          | 0 => throw (.tooDeep mark)
          | depth + 1 =>
            let (items, next) ← composeItems d fuel (place + 1) depth way 0
            pure (.sequence items, next)
        | .mappingStart _ =>
          match depth with
          | 0 => throw (.tooDeep mark)
          | depth + 1 =>
            let (entries, next) ← composeEntries d fuel (place + 1) depth way underTag []
            pure (.mapping entries, next)
        | .nothing => pure (.null, place + 1)
        | .sequenceEnd | .mappingEnd => throw .endOfDocument

/-- Reads the items of a sequence and its end. -/
def composeItems (d : Document) : Nat → Nat → Nat → Way → Nat → Reading (List Node × Nat)
  | 0, _, _, _, _ => throw .endOfDocument
  | fuel + 1, place, depth, way, index => do
    match (← d.item place).1 with
    | .sequenceEnd => pure ([], place + 1)
    | _ =>
      let (node, next) ← compose d fuel place depth (.item way index) false
      let (items, stop) ← composeItems d fuel next depth way (index + 1)
      pure (node :: items, stop)

/-- Reads the entries of a mapping and its end. No key may stand twice. The keys of a mapping
under a tag are read as under that tag. -/
def composeEntries (d : Document) :
    Nat → Nat → Nat → Way → Bool → List (Node × Node) → Reading (List (Node × Node) × Nat)
  | 0, _, _, _, _, _ => throw .endOfDocument
  | fuel + 1, place, depth, way, underTag, before => do
    let (item, _) ← d.item place
    match item with
    | .mappingEnd => pure (before.reverse, place + 1)
    | _ =>
      let (key, next) ← compose d fuel place depth way underTag
      match before.find? fun e => e.1.same key with
      | some (known, _) => Document.wrong (.repeatedKey known.repeated)
      | none =>
        let valueWay :=
          match item with
          | .scalar _ words _ => Way.entry way words
          | _ => Way.unnamed way
        let (value, next) ← compose d fuel next depth valueWay false
        composeEntries d fuel next depth way underTag ((key, value) :: before)

end

/-- The tree of a document that stands alone in its text. -/
def ofOctets (bytes : List UInt8) : Except Fault Node :=
  Reading.ofOctets (fun d => do pure (← compose d d.fuel 0 depthLimit .root false).1) bytes

end Node

end LayerLint.Yaml
