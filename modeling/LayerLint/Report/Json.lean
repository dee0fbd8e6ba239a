-- A report as a document of the format JSON.
import LayerLint.Report.Basic
import LayerLint.Report.JsonTree

namespace LayerLint

/-- A diagnostic; a hint that is not there has no field. -/
def Diagnostic.toJsonTree (d : Diagnostic) : JsonTree :=
  .object
    ([("rule_id", .text d.rule), ("severity", .text d.severity.name), ("file", .text d.file),
      ("path", .text d.path), ("message", .text d.message)]
      ++ (d.hint.map fun hint => ("description", JsonTree.text hint)).toList)

namespace Report

/-- The numbers of a report; that of the hidden diagnostics only if there are any. -/
def summary (r : Report) : JsonTree :=
  .object
    ([("total", .number r.total), ("errors", .number r.errors),
      ("suggestions", .number r.suggestions)]
      ++ if r.hidden = 0 then [] else [("hidden", .number r.hidden)])

def toJsonTree (r : Report) : JsonTree :=
  .object
    [("diagnostics", .array (r.shown.map Diagnostic.toJsonTree)), ("summary", r.summary)]

/-- Writes a report as JSON. -/
def writeJson (r : Report) : String := r.toJsonTree.write 0 ++ "\n"

end Report

end LayerLint
