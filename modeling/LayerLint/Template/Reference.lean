-- What a template refers to: the paths of the values that it reads and the fragments that it
-- brings in, whichever part of a branch is printed.
import LayerLint.Layout
import LayerLint.Template.Tree
import LayerLint.Template.Vocabulary
import LayerLint.Value.Path

namespace LayerLint.Template

/-- What the present value is at a place of a template: the root of all values, the value at a
path, or a value that no path is known for. -/
inductive Dot where
  | root
  | at (path : String)
  | unknown
  deriving DecidableEq, Repr

namespace Dot

/-- Names with a point between them. -/
def chainPath (chain : List String) : String :=
  String.ofList (Text.paste ValuePath.separator (chain.map String.toList))

/-- The path of the value at the end of a chain, if one is known. -/
def resolve (dot : Dot) (chain : List String) : Option String :=
  match chain, dot with
  | [], _ => none
  | _ :: _, .root => some (chainPath chain)
  | _ :: _, .at path => some (path ++ String.singleton ValuePath.separator ++ chainPath chain)
  | _ :: _, .unknown => none

/-- What the present value is in the body of a scope. Only an operand that stands alone is
followed. -/
def under (dot : Dot) : List Command → Dot
  | [[.field chain]] =>
    match dot.resolve chain with
    | some path => .at path
    | none => .unknown
  | [[.variable name chain]] =>
    if name = rootName then
      match Dot.root.resolve chain with
      | some path => .at path
      | none => .root
    else .unknown
  | _ => .unknown

end Dot

/-! ## Paths that are read -/

mutual

/-- The paths that an operand reads, in the order of the source. -/
def Operand.reads (dot : Dot) : Operand → List String
  | .field chain => (dot.resolve chain).toList
  | .variable name chain => if name = rootName then (Dot.root.resolve chain).toList else []
  | .group stages _ => readsOfStages dot stages
  | .function _ => []
  | .text _ => []
  | .number _ => []
  | .character _ => []
  | .boolean _ => []
  | .nil => []

def readsOfCommand (dot : Dot) : List Operand → List String
  | [] => []
  | first :: rest => first.reads dot ++ readsOfCommand dot rest

def readsOfStages (dot : Dot) : List (List Operand) → List String
  | [] => []
  | first :: rest => readsOfCommand dot first ++ readsOfStages dot rest

end

mutual

/-- The paths that a node reads. In the body of a repetition no path is known for the present
value. -/
def Node.reads (dot : Dot) : Node → List String
  | .text _ => []
  | .action p => readsOfStages dot p.stages
  | .block control p body otherwise =>
    let inner :=
      match control with
      | .branch => dot
      | .repetition => Dot.unknown
      | .scope => dot.under p.stages
    readsOfStages dot p.stages ++ (readsOfNodes inner body ++ readsOfNodes dot otherwise)
  | .leave _ => []
  | .next _ => []

def readsOfNodes (dot : Dot) : List Node → List String
  | [] => []
  | first :: rest => first.reads dot ++ readsOfNodes dot rest

end

/-! ## Fragments that are brought in -/

/-- The path of the fragment that a command brings in itself. -/
def ownInclude : List Operand → List String
  | .function name :: .text fragment :: _ =>
    if name = includeName then [(LayoutFile.fragment fragment).path] else []
  | _ => []

mutual

/-- The fragments that the pipelines in an operand bring in. -/
def Operand.includes : Operand → List String
  | .group stages _ => includesOfStages stages
  | .field _ => []
  | .variable _ _ => []
  | .function _ => []
  | .text _ => []
  | .number _ => []
  | .character _ => []
  | .boolean _ => []
  | .nil => []

def includesOfOperands : List Operand → List String
  | [] => []
  | first :: rest => first.includes ++ includesOfOperands rest

def includesOfStages : List (List Operand) → List String
  | [] => []
  | first :: rest => ownInclude first ++ includesOfOperands first ++ includesOfStages rest

end

mutual

/-- The fragments that a node brings in, in the order of the source. -/
def Node.includes : Node → List String
  | .text _ => []
  | .action p => includesOfStages p.stages
  | .block _ p body otherwise =>
    includesOfStages p.stages ++ (includesOfNodes body ++ includesOfNodes otherwise)
  | .leave _ => []
  | .next _ => []

def includesOfNodes : List Node → List String
  | [] => []
  | first :: rest => first.includes ++ includesOfNodes rest

end

/-! ## Counting -/

/-- How often each path stands in a list. -/
def countPaths (paths : List String) : SortedMap Nat :=
  paths.foldl (fun counts path => counts.insert path ((counts.get? path).getD 0 + 1))
    SortedMap.empty

end LayerLint.Template
