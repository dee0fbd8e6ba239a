-- Layers: files that give values to paths.
import LayerLint.Layout
import LayerLint.Repository.LoadError
import LayerLint.Value.Flatten

namespace LayerLint

/-- What a layer is for: values for every installation, values in their place for one
installation, or secret values of one installation. -/
inductive LayerRole where
  | base
  | override
  | secret
  deriving DecidableEq, Repr

def LayerRole.name : LayerRole → String
  | .base => "config"
  | .override => "config patch"
  | .secret => "secret"

/-- A file that gives values to paths. -/
structure Layer where
  path : String
  role : LayerRole
  values : SortedMap Value
  deriving DecidableEq

namespace Layer

/-- Reads a layer. -/
def read (path : String) (role : LayerRole) (octets : List UInt8) : Except LoadError Layer :=
  if Layout.isValueFile path then
    match Value.extract octets with
    | .error fault => .error (.values path fault)
    | .ok values => .ok ⟨path, role, values⟩
  else .error (.misnamed path .values)

/-- The installation that a layer belongs to. -/
def installation (l : Layer) : Option String := (Layout.identify l.path).installation

/-- The leaves that a reference stands for: the path itself, or all leaves below it. The paths
that begin like the reference follow it in ascending order without a gap. -/
def resolve (l : Layer) (reference : String) : List String :=
  if l.values.contains reference then [reference]
  else
    ((l.values.keys.dropWhile fun key => !decide (reference < key)).takeWhile fun key =>
        Text.beginsWith key reference).filter
      fun key => ValuePath.isDescendant key reference

end Layer

end LayerLint
