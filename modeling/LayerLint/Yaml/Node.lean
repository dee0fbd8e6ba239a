-- The tree of a document.
import LayerLint.Yaml.Fault

namespace LayerLint.Yaml

/-- A node of a document. A tag of the document's own stays around its node. -/
inductive Node where
  | null
  | boolean (value : Bool)
  | integer (value : Int)
  | float (value : Binary64)
  | text (value : String)
  | sequence (items : List Node)
  | mapping (entries : List (Node × Node))
  | tagged (tag : String) (content : Node)
  deriving Repr, Inhabited

namespace Node

/-- Whether two numbers are the same key: noughts of both signs are, and so is what is not a
number. -/
def sameFloat (x y : Binary64) : Bool :=
  match x.worth, y.worth with
  | .finite _ 0 _, .finite _ 0 _ => true
  | .notANumber, .notANumber => true
  | _, _ => x == y

/-- A tag without the bang in front of it. -/
def bareTag (tag : String) : List Char :=
  match tag.toList with
  | '!' :: rest => rest
  | cs => cs

mutual

/-- Whether two nodes are the same key. The order of a mapping does not count. -/
def same : Node → Node → Bool
  | .null, .null => true
  | .boolean a, .boolean b => a == b
  | .integer a, .integer b => a == b
  | .float a, .float b => sameFloat a b
  | .text a, .text b => a == b
  | .sequence a, .sequence b => sameItems a b
  | .mapping a, .mapping b => a.length == b.length && hasEntries a b
  | .tagged s a, .tagged t b => bareTag s == bareTag t && a.same b
  | _, _ => false

def sameItems : List Node → List Node → Bool
  | [], [] => true
  | a :: as, b :: bs => a.same b && sameItems as bs
  | _, _ => false

/-- Whether each entry of the first mapping is one of the second. -/
def hasEntries : List (Node × Node) → List (Node × Node) → Bool
  | [], _ => true
  | (key, value) :: rest, entries =>
    entries.any (fun e => key.same e.1 && value.same e.2) && hasEntries rest entries

end

/-- A key that is already there, as messages name it. -/
def repeated : Node → RepeatedKey
  | .null => .null
  | .boolean b => .boolean b
  | .integer n => .number (toString n)
  | .float x => .number (Decimal.keyed.write x)
  | .text s => .text s
  | .sequence _ => .other
  | .mapping _ => .other
  | .tagged _ _ => .other

end Node

end LayerLint.Yaml
