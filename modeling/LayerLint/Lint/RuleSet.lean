-- Sets of rules, in the order of their ids.
import LayerLint.Lint.Rule
import LayerLint.Pattern
import LayerLint.Settings.Basic

namespace LayerLint

/-- A filter that is no pattern. -/
structure FilterError where
  pattern : String
  cause : PatternError
  deriving DecidableEq, Repr

def FilterError.message (e : FilterError) : String :=
  "Invalid rule filter '" ++ e.pattern ++ "': " ++ e.cause.message e.pattern

/-- Rules by their ids. -/
structure RuleSet where
  rules : SortedMap Rule
  named : ∀ e ∈ rules.entries, e.1 = e.2.id

namespace RuleSet

def empty : RuleSet := ⟨SortedMap.empty, fun _ h => absurd h List.not_mem_nil⟩

/-- Adds a rule, in place of one with the same id. -/
def register (s : RuleSet) (rule : Rule) : RuleSet :=
  ⟨s.rules.insert rule.id rule, fun e he => by
    rcases SortedMap.fst_mem_insertEntry he with rfl | he
    · rfl
    · exact s.named e he⟩

/-- Keeps the rules whose ids satisfy a test. -/
def select (s : RuleSet) (p : String → Bool) : RuleSet :=
  ⟨s.rules.filter fun id _ => p id, fun e he => s.named e ((List.mem_filter.1 he).1)⟩

/-- Keeps the rules whose ids a pattern matches. -/
def filter (s : RuleSet) (pattern : String) : Except FilterError RuleSet :=
  match Pattern.ofText pattern with
  | .error cause => .error ⟨pattern, cause⟩
  | .ok p => .ok (s.select p.matchesIn)

/-- Leaves a rule out. -/
def disable (s : RuleSet) (id : String) : RuleSet := s.select fun other => other != id

def get? (s : RuleSet) (id : String) : Option Rule := s.rules.get? id

def contains (s : RuleSet) (id : String) : Bool := s.rules.contains id

def ids (s : RuleSet) : List String := s.rules.keys

def size (s : RuleSet) : Nat := s.rules.size

/-- The rules, in the order of their ids. -/
def toList (s : RuleSet) : List Rule := s.rules.entries.map (·.2)

def ofList (rules : List Rule) : RuleSet := rules.foldl register empty

/-- The rules that settings ask for. -/
def ofSettings (settings : Settings) : RuleSet :=
  settings.disabledRules.foldl disable
    (ofList (Rule.all settings.overshadowThreshold settings.patchUsageThreshold))

/-- The diagnostics of every rule, in the order of a report. -/
def run (s : RuleSet) (survey : Survey) : List Diagnostic :=
  Diagnostic.sort (s.toList.flatMap fun rule => rule.check survey)

end RuleSet

end LayerLint
