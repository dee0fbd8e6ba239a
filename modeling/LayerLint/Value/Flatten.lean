-- Flattening: every leaf of a document at the path that leads to it. Leaves are scalars and empty
-- collections; items of a sequence are counted from nought.
import LayerLint.Text.Blank
import LayerLint.Value.Basic
import LayerLint.Value.Path
import LayerLint.Yaml.Compose

namespace LayerLint

namespace Value

/-- A leaf at its path. The root itself has no path. -/
def leaf (path : String) (value : Value) : List (String × Value) :=
  if path.isEmpty then [] else [(path, value)]

mutual

/-- The leaves below a node, in the order of the document. -/
def flatten (path : String) : Yaml.Node → List (String × Value)
  | .mapping [] => leaf path (.mapping [])
  | .mapping (entry :: rest) => flattenEntries path (entry :: rest)
  | .sequence [] => leaf path (.sequence [])
  | .sequence (item :: rest) => flattenItems path 0 (item :: rest)
  | .tagged _ content => flatten path content
  | .null => leaf path .null
  | .boolean b => leaf path (.boolean b)
  | .integer n => leaf path (ofInteger n)
  | .float x => leaf path (.float x)
  | .text s => leaf path (.text s)

def flattenItems (path : String) (index : Nat) : List Yaml.Node → List (String × Value)
  | [] => []
  | item :: rest =>
    flatten (ValuePath.join path (toString index)) item ++ flattenItems path (index + 1) rest

def flattenEntries (path : String) : List (Yaml.Node × Yaml.Node) → List (String × Value)
  | [] => []
  | (key, value) :: rest =>
    flatten (ValuePath.join path (segment key)) value ++ flattenEntries path rest

end

/-- The leaves of a document by their paths. -/
def leaves (root : Yaml.Node) : SortedMap Value := SortedMap.ofList (flatten "" root)

/-- Whether nothing is written in a text but blanks, comments and document starts. -/
def isBlankDocument (bytes : List UInt8) : Bool :=
  (Text.cut '\n' (Text.decodeLossy bytes)).all fun line =>
    match Text.trim line with
    | [] => true
    | '#' :: _ => true
    | trimmed => trimmed == ['-', '-', '-']

/-- Reads the leaves of a document. -/
def extract (bytes : List UInt8) : Except Yaml.Fault (SortedMap Value) :=
  if isBlankDocument bytes then pure SortedMap.empty
  else (Yaml.Node.ofOctets bytes).map leaves

end Value

end LayerLint
