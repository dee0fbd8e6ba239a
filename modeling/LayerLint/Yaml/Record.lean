-- Reading a document whose form is known beforehand: a mapping with known fields, of which each
-- holds a number, a text, or a sequence of texts. Messages name what stands there instead.
import LayerLint.Yaml.Compose

namespace LayerLint.Yaml

/-- A node as messages name it. -/
def Found.ofNode : Node → Found
  | .null => .unit
  | .boolean b => .boolean b
  | .integer n => .integer n
  | .float x => .float x
  | .text s => .text s
  | .sequence _ => .sequence
  | .mapping _ => .mapping
  | .tagged _ content => ofNode content

/-- The whole number of a scalar without a minus, if it fits sixty-four bits. -/
def Scalar.natural? (text : String) : Option Nat :=
  if text.toList.head? = some '-' then none
  else
    match integer? text.toList with
    | some (.integer n) => if 0 ≤ n then some n.toNat else none
    | _ => none

namespace Document

/-! ## Following aliases -/

/-- What stands at a place, once an alias there is followed. -/
structure Standing where
  place : Nat
  item : Item
  mark : Mark
  way : Way
  deriving Repr

def standing (d : Document) (place : Nat) (way : Way) : Reading Standing := do
  let (item, mark) ← d.item place
  match item with
  | .alias anchor =>
    let target ← d.follow anchor
    let (item, mark) ← d.item target
    pure ⟨target, item, mark, .alias way⟩
  | item => pure ⟨place, item, mark, way⟩

/-- Refuses an item where something else is wanted. -/
def refuse {α : Type} (wanted : String) : Item → Reading α
  | .scalar tag text style => do
    wrong (.wrongType (Found.ofNode (← Node.ofScalar wanted tag text style false)) wanted)
  | .sequenceStart _ => wrong (.wrongType .sequence wanted)
  | .mappingStart _ => wrong (.wrongType .mapping wanted)
  | .nothing | .alias _ | .sequenceEnd | .mappingEnd => throw .endOfDocument

/-! ## Scalars -/

/-- Whether the text of a scalar may be read as a value of a kind: it is plain, or a literal block
under the tag of that kind. -/
def isReadable (kind : String) (tag : Option TagText) : ScalarStyle → Bool
  | .plain => true
  | .literal => tag == some (Node.commonTag kind)
  | .quoted => false

/-- Reads a scalar that has a worth of a kind. -/
def Standing.scalar {α : Type} (s : Standing) (wanted : String)
    (worth? : Option TagText → String → ScalarStyle → Option α) : Reading α :=
  placing s.mark s.way <|
    match s.item with
    | .scalar tag text style =>
      match worth? tag text style with
      | some worth => pure worth
      | none => refuse wanted s.item
    | other => refuse wanted other

/-- Reads the text of a scalar as it stands, whatever it would stand for. -/
def Standing.text (s : Standing) (wanted : String) : Reading String :=
  s.scalar wanted fun _ text _ => some text

def natural (d : Document) (place : Nat) (way : Way) : Reading Nat := do
  (← d.standing place way).scalar "usize" fun tag text style =>
    if isReadable "int" tag style then Scalar.natural? text else none

def float (d : Document) (place : Nat) (way : Way) : Reading Binary64 := do
  (← d.standing place way).scalar "f64" fun tag text style =>
    if isReadable "float" tag style then Scalar.float? text else none

/-! ## Sequences of texts -/

/-- Reads items of a sequence up to its end; returns also the place after it. -/
def textItems (d : Document) (way : Way) : Nat → Nat → Nat → Reading (List String × Nat)
  | 0, _, _ => throw .endOfDocument
  | fuel + 1, place, index => do
    match (← d.item place).1 with
    | .sequenceEnd => pure ([], place + 1)
    | _ =>
      let item ← (← d.standing place (.item way index)).text "a string"
      let (items, stop) ← textItems d way fuel (place + 1) (index + 1)
      pure (item :: items, stop)

/-- Reads a sequence of texts, for which an empty scalar may stand; returns also the place after
it. -/
def texts (d : Document) (place : Nat) (way : Way) : Reading (List String × Nat) := do
  let s ← d.standing place way
  placing s.mark s.way do
    match s.item with
    | .sequenceStart _ =>
      let (items, stop) ← d.textItems s.way (d.items.size + 1) (s.place + 1) 0
      pure (items, if s.place = place then stop else place + 1)
    | .scalar _ "" _ | .nothing => pure ([], place + 1)
    | other => refuse "a sequence" other

/-! ## Mappings with known fields -/

/-- Reads entries of a mapping up to its end. The names of the fields are `known`; `read` adds
the value of a field to what is read so far, and returns the place after the value. -/
def fields {ρ : Type} (d : Document) (way : Way) (known : List String)
    (read : ρ → String → Nat → Way → Reading (ρ × Nat)) : Nat → Nat → ρ → Reading ρ
  | 0, _, _ => throw .endOfDocument
  | fuel + 1, place, record => do
    match (← d.item place).1 with
    | .mappingEnd => pure record
    | item =>
      let s ← d.standing place way
      let name ← s.text "field identifier"
      if !known.contains name then
        placing s.mark s.way (wrong (.unknownField name known))
      let valueWay :=
        match item with
        | .scalar _ words _ => Way.entry way words
        | _ => Way.unnamed way
      let (record, next) ← read record name (place + 1) valueWay
      fields d way known read fuel next record

/-- Reads a document that is one mapping with known fields. Where nothing stands, or an empty
scalar, no field is given. -/
def record {ρ : Type} (d : Document) (wanted : String) (known : List String) (start : ρ)
    (read : ρ → String → Nat → Way → Reading (ρ × Nat)) : Reading ρ := do
  let s ← d.standing 0 .root
  placing s.mark s.way do
    match s.item with
    | .mappingStart _ => d.fields s.way known read (d.items.size + 1) (s.place + 1) start
    | .scalar _ "" _ | .nothing => pure start
    | other => refuse wanted other

end Document

end LayerLint.Yaml
