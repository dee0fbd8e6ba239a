-- The forms that a report is written in.
import LayerLint.Report.Json
import LayerLint.Report.Prose
import LayerLint.Text.Lowercase

namespace LayerLint

inductive ReportFormat where
  | prose
  | json
  deriving DecidableEq, Repr

namespace ReportFormat

/-- The name that a format is asked for by. -/
def name : ReportFormat → String
  | .prose => "human"
  | .json => "json"

/-- The format of a name in small letters. -/
def ofName? (name : String) : Option ReportFormat :=
  if name = ReportFormat.prose.name then some .prose
  else if name = ReportFormat.json.name then some .json
  else none

/-- A name that no format has. -/
structure UnknownFormat where
  name : String
  deriving DecidableEq, Repr

def UnknownFormat.message (e : UnknownFormat) : String :=
  "unknown output format '" ++ e.name ++ "'"

/-- The format of a name in letters of any size. -/
def ofText (text : String) : Except UnknownFormat ReportFormat :=
  match ofName? (Text.lower text) with
  | some format => .ok format
  | none => .error ⟨Text.lower text⟩

end ReportFormat

/-- Writes a report in a format; the style counts only for readers. -/
def Report.write (r : Report) (style : ProseStyle) : ReportFormat → String
  | .prose => style.write r
  | .json => r.writeJson

end LayerLint
