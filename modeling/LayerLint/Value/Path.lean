-- Paths of values: segments with a point between them.
import LayerLint.SortedMap
import LayerLint.Text.Cut

namespace LayerLint

namespace ValuePath

/-- What stands between two segments. -/
def separator : Char := '.'

/-- A path without the point that may lead it; only one is left out. -/
def normalize (path : String) : String :=
  match path.toList with
  | '.' :: rest => String.ofList rest
  | _ => path

/-- Whether a path lies strictly below another: the other, a point, and more or nothing. -/
def isDescendant (path ancestor : String) : Bool :=
  (ancestor.toList ++ [separator]).isPrefixOf path.toList

/-- A path and one segment more. -/
def join (path segment : String) : String :=
  if path.isEmpty then segment else path ++ String.singleton separator ++ segment

/-- The segments of a path. -/
def segments (path : String) : List String := Text.cutString separator path

end ValuePath

end LayerLint
