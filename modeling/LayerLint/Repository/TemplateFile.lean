-- The templates of a repository.
import LayerLint.Layout
import LayerLint.Repository.LoadError

namespace LayerLint

/-- Whether a template makes plain values or secret ones. -/
inductive Family where
  | config
  | secret
  deriving DecidableEq, Repr

/-- The file of an app in one family that holds everywhere. -/
def LayoutFile.ofDefault (app : String) : Family → LayoutFile
  | .config => .appTemplate app
  | .secret => .appSecretTemplate app

/-- The file of an app in one family and one installation. -/
def LayoutFile.ofPatch (installation app : String) : Family → LayoutFile
  | .config => .templatePatch installation app
  | .secret => .secretTemplatePatch installation app

/-- What a template is for: an app everywhere, an app in one installation, or other templates. -/
inductive TemplateRole where
  | default (family : Family)
  | patch (family : Family)
  | fragment
  deriving DecidableEq, Repr

namespace TemplateRole

def isPatch : TemplateRole → Bool
  | .patch _ => true
  | _ => false

def isSecret : TemplateRole → Bool
  | .default .secret => true
  | .patch .secret => true
  | _ => false

end TemplateRole

/-- A template: the paths that it reads, with the number of times; the paths that its skeleton
defines, in ascending order; and the fragments that it brings in. -/
structure TemplateFile where
  path : String
  role : TemplateRole
  reads : SortedMap Nat
  defines : List String
  includes : List String
  deriving DecidableEq

namespace TemplateFile

/-- Reads a template. -/
def read (vocabulary : Template.Vocabulary) (path : String) (role : TemplateRole)
    (octets : List UInt8) : Except LoadError TemplateFile :=
  if Layout.isTemplateFile path then
    match Template.analyze vocabulary octets with
    | .error e => .error (.template path e)
    | .ok analysis => .ok ⟨path, role, analysis.reads, analysis.leaves.keys, analysis.includes⟩
  else .error (.misnamed path .template)

def installation (t : TemplateFile) : Option String := (Layout.identify t.path).installation

def app (t : TemplateFile) : Option String := (Layout.identify t.path).app

/-- Whether the skeleton defines a path, or leaves below it, outright. A path that the template
reads is not defined by it, as in a patch that only passes a value on. -/
def supplies (t : TemplateFile) (path : String) : Bool :=
  !t.reads.contains path &&
    t.defines.any fun defined => defined == path || ValuePath.isDescendant defined path

end TemplateFile

end LayerLint
