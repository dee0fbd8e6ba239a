-- Checks of what layers hold: values that change nothing, values that stand nearly everywhere in
-- the place of others, and values that nobody reads.
import LayerLint.Lint.Diagnostic
import LayerLint.Number.Binary64
import LayerLint.Repository.Survey

namespace LayerLint.LayerCheck

/-- A share of a whole, as the nearest number. -/
def share (part whole : Nat) : Binary64 := Binary64.ofQuotient false part whole

/-! ## Values that stand over others -/

/-- Values of an override that the base gives already. -/
def duplicates (s : Survey) : List Finding :=
  let base := s.repository.base
  base.values.entries.flatMap fun (path, value) =>
    ((s.layersOver base path).filter fun layer => layer.values.get? path = some value).map
      fun layer =>
        { severity := .error
          file := layer.path
          path := path
          message := "is a duplicate of the same path in " ++ base.path
          hint := some "Remove it from the override; the base value already applies." }

/-- Values of the base that all installations, or a large share of them, give anew. A single
installation says nothing. -/
def overshadowed (threshold : Binary64) (s : Survey) : List Finding :=
  let base := s.repository.base
  let total := s.repository.installations.size
  if total < 2 then []
  else
    base.values.keys.filterMap fun path =>
      let count := (s.layersOver base path).length
      let severity :=
        if count = total then some .error
        else if threshold.atMost (share count total) then some .suggestion
        else none
      severity.map fun severity =>
        { severity := severity
          file := base.path
          path := path
          message := s!"is overshadowed by {count}/{total} installations"
          hint := some ("Consider removing it from " ++ base.path
            ++ " and setting it in the installations that need it.") }

/-! ## Values that are hardly read -/

/-- What is found about a value of an override that some apps of all those of its installation
read. -/
def usageOfOverride (threshold : Binary64) (installation : String) (layer : Layer)
    (path : String) (readers apps : Nat) : List Finding :=
  if readers = 0 then
    [{ severity := .error
       file := layer.path
       path := path
       message := "is unused"
       hint := some ("No template of " ++ installation ++ " reads it; consider removing it.") }]
  else if (share readers apps).atMost threshold then
    [{ severity := .suggestion
       file := layer.path
       path := path
       message := s!"is used by {readers}/{apps} apps"
       hint := some "Consider moving it into the template patches of the apps that use it." }]
  else []

/-- Values of an override that no app, or a small share of the apps, reads. -/
def unusedInOverrides (threshold : Binary64) (s : Survey) : List Finding :=
  s.repository.installations.entries.flatMap fun (name, installation) =>
    let apps := (s.repository.appsOf installation).length
    if apps = 0 then []
    else
      let layer := installation.override
      layer.values.keys.flatMap fun path =>
        usageOfOverride threshold name layer path
          (Survey.consumers (s.usedBy layer path)).length apps

/-- The apps that read a path of the base, or what stands in its place. -/
def readersOfBase (s : Survey) (path : String) : List String :=
  let base := s.repository.base
  Survey.consumers ((base :: s.layersOver base path).flatMap fun layer => s.usedBy layer path)

/-- Values of the base that no app reads, or just one. -/
def unusedInBase (s : Survey) : List Finding :=
  let base := s.repository.base
  if s.repository.installations.size = 0 ∨ s.repository.apps = [] then []
  else
    base.values.keys.flatMap fun path =>
      match readersOfBase s path with
      | [] =>
        [{ severity := .error
           file := base.path
           path := path
           message := "is unused"
           hint := some "No app template reads it; consider removing it." }]
      | [app] =>
        [{ severity := .suggestion
           file := base.path
           path := path
           message := "is used by just one app: " ++ app
           hint := some ("Consider moving it into " ++ (LayoutFile.appTemplate app).path ++ ".") }]
      | _ :: _ :: _ => []

/-- Secret values that no template reads. -/
def unusedSecrets (s : Survey) : List Finding :=
  if s.repository.apps = [] then []
  else
    s.repository.installations.entries.flatMap fun (_, installation) =>
      let layer := installation.secret
      (layer.values.keys.filter fun path => (s.usedBy layer path).isEmpty).map fun path =>
        { severity := .error
          file := layer.path
          path := path
          message := "is unused"
          hint := some "No secret template reads it; consider removing it." }

end LayerLint.LayerCheck
