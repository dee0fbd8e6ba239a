-- The rules as a list for a reader.
import LayerLint.Console.Transcript
import LayerLint.Lint.RuleSet

namespace LayerLint

namespace RuleSet

/-- The width of the column of severities. -/
def severityWidth : Nat := 10

/-- A text that is filled up with spaces to a width. -/
def padded (width : Nat) (text : String) : String :=
  text ++ String.ofList (List.replicate (width - text.length) ' ')

/-- A line for each rule: its id, its severity and what it does, in columns. -/
def lines (s : RuleSet) : List String :=
  let width := s.ids.foldl (fun width id => max width id.length) 0
  s.toList.map fun rule =>
    padded width rule.id ++ "  " ++ padded severityWidth rule.severity.name ++ "  " ++
      rule.description

/-- Says which rules there are. -/
def describe (s : RuleSet) : Transcript := ⟨s.lines.map fun line => (.message, line)⟩

end RuleSet

end LayerLint
