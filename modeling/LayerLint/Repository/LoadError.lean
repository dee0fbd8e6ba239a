-- Why a repository cannot be loaded.
import LayerLint.FileStore
import LayerLint.Template.Analysis

namespace LayerLint

/-- What a path has to be the path of. -/
inductive FileForm where
  | values
  | template
  deriving DecidableEq, Repr

def FileForm.name : FileForm → String
  | .values => "value file"
  | .template => "template"

/-- Why a repository, or one file of it, cannot be loaded. -/
inductive LoadError where
  | store (path : String) (problem : FileProblem)
  | misnamed (path : String) (form : FileForm)
  | values (path : String) (fault : Yaml.Fault)
  | template (path : String) (error : Template.AnalysisError)
  deriving DecidableEq, Repr

namespace LoadError

/-- A line in brackets, if one is known. -/
def lineNote : Option Nat → String
  | some line => s!" (line {line})"
  | none => ""

/-- The lines around a fault, each behind a mark. -/
def contextNote (context : List String) : String := String.join (context.map ("\n> " ++ ·))

def path : LoadError → String
  | .store path _ => path
  | .misnamed path _ => path
  | .values path _ => path
  | .template path _ => path

def message : LoadError → String
  | .store path .notFound => "Not found: " ++ path
  | .store path problem => "IO error at " ++ path ++ ": " ++ problem.message
  | .misnamed path form => "Given file is not a " ++ form.name ++ ": " ++ path
  | .values path fault =>
    "Failed to parse " ++ path ++ lineNote fault.line? ++ ": " ++ fault.message
  | .template path error =>
    (if error.isMalformed then "Failed to parse template " else "Failed to render template ")
      ++ path ++ lineNote error.line? ++ ": " ++ error.message ++ contextNote error.context

end LoadError

end LayerLint
