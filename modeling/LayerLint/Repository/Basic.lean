-- A repository: one base layer, the layers and patches of every installation, the templates that
-- apps have everywhere, and the fragments that templates share.
import LayerLint.Repository.Layer
import LayerLint.Repository.TemplateFile

namespace LayerLint

/-- The templates that an app has in one place, at most one for each family. -/
structure AppTemplates where
  config : Option TemplateFile
  secret : Option TemplateFile
  deriving DecidableEq

namespace AppTemplates

def get? (t : AppTemplates) : Family → Option TemplateFile
  | .config => t.config
  | .secret => t.secret

def toList (t : AppTemplates) : List TemplateFile := t.config.toList ++ t.secret.toList

end AppTemplates

/-- An installation: its layers and the patches of its apps. -/
structure Installation where
  override : Layer
  secret : Layer
  patches : SortedMap AppTemplates
  deriving DecidableEq

/-- All files of a repository. Fragments are kept by their paths. -/
structure Repository where
  base : Layer
  installations : SortedMap Installation
  defaults : SortedMap AppTemplates
  fragments : SortedMap TemplateFile
  deriving DecidableEq

namespace Repository

/-- Every layer: the base, then two of each installation. -/
def layers (r : Repository) : List Layer :=
  r.base :: r.installations.entries.flatMap fun i => [i.2.override, i.2.secret]

/-- Every template: of the apps, of the installations, and the fragments. -/
def templates (r : Repository) : List TemplateFile :=
  r.defaults.entries.flatMap (fun a => a.2.toList) ++
    r.installations.entries.flatMap (fun i => i.2.patches.entries.flatMap fun a => a.2.toList) ++
    r.fragments.entries.map (·.2)

/-- Names in ascending order, each once. -/
def distinct (names : List String) : List String :=
  (SortedMap.ofList (names.map fun name => (name, ()))).keys

/-- The apps of an installation: those that every installation has, and those that it patches. -/
def appsOf (r : Repository) (i : Installation) : List String :=
  distinct (r.defaults.keys ++ i.patches.keys)

/-- Every app. -/
def apps (r : Repository) : List String :=
  distinct (r.defaults.keys ++ r.installations.entries.flatMap fun i => i.2.patches.keys)

/-- The template of an app in one family that holds everywhere. -/
def defaultTemplate? (r : Repository) (app : String) (family : Family) : Option TemplateFile :=
  (r.defaults.get? app).bind (·.get? family)

end Repository

/-- The patch of an app's template in one family. -/
def Installation.patch? (i : Installation) (app : String) (family : Family) :
    Option TemplateFile :=
  (i.patches.get? app).bind (·.get? family)

end LayerLint
