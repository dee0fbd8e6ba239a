-- A report as lines for a reader.
import LayerLint.Console.Theme
import LayerLint.Report.Basic

namespace LayerLint

/-- How a report is written for a reader. -/
structure ProseStyle where
  hints : Bool
  ruleNames : Bool
  theme : Theme
  deriving DecidableEq, Repr

namespace ProseStyle

def look (s : ProseStyle) : Severity → Look
  | .error => s.theme.error
  | .suggestion => s.theme.suggestion

/-- A path behind a point; a whole file has a mark of its own. -/
def showPath (path : String) : String :=
  if path = Finding.wholeFile then Finding.wholeFile else "." ++ path

/-- The lines of a diagnostic. -/
def writeDiagnostic (s : ProseStyle) (d : Diagnostic) : String :=
  let rule := if s.ruleNames then " " ++ s.theme.dim.apply ("[" ++ d.rule ++ "]") else ""
  let hint :=
    match d.hint with
    | some hint => if s.hints then "    " ++ s.theme.dim.apply hint ++ "\n" else ""
    | none => ""
  (s.look d.severity).apply (d.file ++ ": " ++ showPath d.path) ++ " " ++ d.message ++ rule ++ "\n"
    ++ hint

/-- What is said about diagnostics that are not shown. -/
def writeHidden (r : Report) : String :=
  if r.hidden = 0 then ""
  else s!"\n{r.hidden} more message(s) not shown; use --max-messages 0 to see all of them\n"

/-- The sum at the end. -/
def writeSum (r : Report) : String :=
  if r.total = 0 then ""
  else
    s!"\nFound {r.total} issue(s): {r.errors} error(s), {r.suggestions} suggestion(s)\n"

/-- Writes a report. -/
def write (s : ProseStyle) (r : Report) : String :=
  String.join (r.shown.map s.writeDiagnostic) ++ writeHidden r ++ writeSum r

end ProseStyle

end LayerLint
