-- Diagnostics: what a rule has to say about a path of a file, and the order in which a report
-- gives them.

namespace LayerLint

/-- Whether a repository works but could be simpler, or holds what is dead or dangling. -/
inductive Severity where
  | suggestion
  | error
  deriving DecidableEq, Repr

namespace Severity

def name : Severity → String
  | .suggestion => "suggestion"
  | .error => "error"

/-- The place of a severity; the graver one has the higher rank. -/
def rank : Severity → Nat
  | .suggestion => 0
  | .error => 1

end Severity

/-- What is found about a path of a file, with a hint of what to do about it. -/
structure Finding where
  severity : Severity
  file : String
  path : String
  message : String
  hint : Option String
  deriving DecidableEq, Repr

/-- The path of a finding about a whole file. -/
def Finding.wholeFile : String := "*"

/-- A finding and the rule that made it. -/
structure Diagnostic extends Finding where
  rule : String
  deriving DecidableEq, Repr

namespace Diagnostic

def isError (d : Diagnostic) : Bool := d.severity = .error

/-- The order of a report: errors first, then by file, path, rule and message. -/
def order (a b : Diagnostic) : Ordering :=
  (compare b.severity.rank a.severity.rank).then
    ((compare a.file b.file).then
      ((compare a.path b.path).then ((compare a.rule b.rule).then (compare a.message b.message))))

/-- Diagnostics in the order of a report; equal ones keep their places. -/
def sort (ds : List Diagnostic) : List Diagnostic := ds.mergeSort fun a b => (order a b).isLE

end Diagnostic

end LayerLint
