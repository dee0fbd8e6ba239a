-- Checks of what templates refer to: values that are missing, and fragments that are missing or
-- that no template brings in.
import LayerLint.Lint.Diagnostic
import LayerLint.Repository.Survey

namespace LayerLint.TemplateCheck

/-! ## Values -/

/-- What can be done about a value that a template misses. -/
def remedy : TemplateRole → String
  | .default .config | .patch .config =>
    "Define it in default/config.yaml or in each listed installation's config.yaml.patch."
  | .default .secret | .patch .secret =>
    "Define it in each listed installation's secret.yaml."
  | .fragment => "Define it for every template that includes this file, or stop referencing it."

/-- References that are missing in some installation. -/
def undefinedValues (s : Survey) : List Finding :=
  s.repository.templates.flatMap fun t =>
    t.reads.keys.filterMap fun path =>
      match s.missingIn t path with
      | [] => none
      | first :: rest =>
        some
          { severity := .error
            file := t.path
            path := path
            message :=
              "is undefined for installation(s): " ++ ", ".intercalate (first :: rest)
            hint := some (remedy t.role) }

/-! ## Fragments -/

/-- Fragments that are brought in and are not there. -/
def missingFragments (s : Survey) : List Finding :=
  s.repository.templates.flatMap fun t =>
    (t.includes.filter fun fragment => !s.repository.fragments.contains fragment).map
      fun fragment =>
        { severity := .error
          file := t.path
          path := Finding.wholeFile
          message := "includes missing file " ++ fragment
          hint := some ("Create " ++ fragment ++ " or remove the include call.") }

/-- The fragments that some other template brings in. -/
def broughtIn (s : Survey) : List String :=
  s.repository.templates.flatMap fun t => t.includes.filter fun fragment => fragment != t.path

/-- Fragments that no other template brings in. -/
def unusedFragments (s : Survey) : List Finding :=
  let used := broughtIn s
  (s.repository.fragments.keys.filter fun fragment => !used.contains fragment).map fun fragment =>
    { severity := .error
      file := fragment
      path := Finding.wholeFile
      message := "is never included"
      hint := some "Remove the file or include it from a template." }

end LayerLint.TemplateCheck
