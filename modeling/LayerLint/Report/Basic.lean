-- Reports: diagnostics that are chosen, put in order and cut to a length, and the verdict.
import LayerLint.Lint.Diagnostic

namespace LayerLint

/-- How a report is made. -/
structure ReportOptions where
  onlyErrors : Bool
  /-- The number of diagnostics that are shown; nought shows all. -/
  maxMessages : Nat
  /-- Whether suggestions fail a run as errors do. -/
  strict : Bool
  deriving DecidableEq, Repr

/-- Diagnostics in order, of which the first ones are shown. -/
structure Report where
  diagnostics : List Diagnostic
  shownCount : Nat
  strict : Bool
  deriving DecidableEq, Repr

namespace Report

/-- The number of diagnostics that a limit lets through. -/
def visible (limit count : Nat) : Nat := if limit = 0 then count else min limit count

/-- Makes a report. -/
def ofDiagnostics (options : ReportOptions) (ds : List Diagnostic) : Report :=
  let chosen := Diagnostic.sort (if options.onlyErrors then ds.filter (·.isError) else ds)
  ⟨chosen, visible options.maxMessages chosen.length, options.strict⟩

def shown (r : Report) : List Diagnostic := r.diagnostics.take r.shownCount

def total (r : Report) : Nat := r.diagnostics.length

/-- The number of diagnostics that are cut. -/
def hidden (r : Report) : Nat := r.total - r.shownCount

def count (r : Report) (severity : Severity) : Nat :=
  (r.diagnostics.filter fun d => d.severity = severity).length

def errors (r : Report) : Nat := r.count .error

def suggestions (r : Report) : Nat := r.count .suggestion

/-- Whether a run with this report fails. -/
def fails (r : Report) : Bool := 0 < r.errors || (r.strict && 0 < r.suggestions)

/-- The code that a run ends with. -/
def exitCode (r : Report) : Nat := if r.fails then 1 else 0

end Report

end LayerLint
