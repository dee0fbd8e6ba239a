-- A run of the linter over a repository: what it says, and the code that it ends with.
import LayerLint.Console.Transcript
import LayerLint.Lint.RuleSet
import LayerLint.Report.Format
import LayerLint.Settings.File

namespace LayerLint

/-- What a run is asked for. -/
structure LintOptions where
  /-- A pattern that the ids of the rules have to match. -/
  filter : Option String
  /-- A settings file in place of the one that the repository keeps. -/
  settingsPath : Option String
  onlyErrors : Bool
  strict : Bool
  /-- The number of diagnostics that are shown, in place of the one of the settings. -/
  maxMessages : Option Nat
  hints : Bool
  ruleNames : Bool
  format : ReportFormat
  deriving DecidableEq, Repr

namespace LintOptions

/-- All rules and the settings of the repository, and all that can be shown. -/
def default : LintOptions := ⟨none, none, false, false, none, true, true, .prose⟩

/-- How the report is made; what a run is asked for goes before its settings. -/
def report (o : LintOptions) (settings : Settings) : ReportOptions :=
  ⟨o.onlyErrors, o.maxMessages.getD settings.maxMessages, o.strict⟩

/-- How the report is written. -/
def style (o : LintOptions) (colour : Bool) : ProseStyle :=
  ⟨o.hints, o.ruleNames, Theme.ofColour colour⟩

end LintOptions

/-- Why a run cannot begin. -/
inductive LintError where
  | settings (error : Settings.FileError)
  | filter (error : FilterError)
  deriving DecidableEq, Repr

def LintError.message : LintError → String
  | .settings error => error.message
  | .filter error => error.message

namespace Lint

/-- The code of a run that could not load the repository. -/
def loadFailure : Nat := 2

/-- The settings of a run, and the rules that they and the filter leave. -/
def prepare {σ : Type} [FileStore σ] (store : σ) (root : String) (o : LintOptions) :
    Except LintError (Settings × RuleSet) :=
  match Settings.discover store root o.settingsPath with
  | .error e => .error (.settings e)
  | .ok settings =>
    let rules := RuleSet.ofSettings settings
    match o.filter with
    | none => .ok (settings, rules)
    | some pattern =>
      match rules.filter pattern with
      | .error e => .error (.filter e)
      | .ok rules => .ok (settings, rules)

/-- The words of a run about its report. Nothing found is good news, unless another program is
to read of it. -/
def sayReport (t : Transcript) (o : LintOptions) (colour : Bool) (r : Report) : Transcript :=
  if r.total = 0 ∧ o.format = .prose then t.say .success "No issues found"
  else
    let text := r.write (o.style colour) o.format
    t.say .message (String.ofList (Text.trimEnd text.toList))

/-- Lints the repository that begins at a path of a store. -/
def run {σ : Type} [FileStore σ] (store : σ) (root : String) (o : LintOptions) (colour : Bool) :
    Except LintError (Transcript × Nat) :=
  match prepare store root o with
  | .error e => .error e
  | .ok (settings, rules) =>
    let t :=
      if rules.size = 0 then Transcript.empty.say .warning "No lint rules selected"
      else Transcript.empty
    match Survey.load (RootedStore.mk root store) Template.Vocabulary.standard with
    | .error e => .ok (t.say .error e.message, loadFailure)
    | .ok survey =>
      let report := Report.ofDiagnostics (o.report settings) (rules.run survey)
      .ok (sayReport t o colour report, report.exitCode)

end Lint

end LayerLint
