-- The rules that a repository can be held to.
import LayerLint.Lint.LayerCheck
import LayerLint.Lint.TemplateCheck

namespace LayerLint

/-- A rule; two of them are set to a threshold, which is a share of a whole. -/
inductive Rule where
  | duplicateConfigValue
  | missingInclude
  | overshadowedConfigValue (threshold : Binary64)
  | undefinedTemplateValue
  | unusedConfigPatchValue (threshold : Binary64)
  | unusedConfigValue
  | unusedInclude
  | unusedSecretValue
  deriving DecidableEq, Repr

namespace Rule

/-- The name that a rule is chosen by. -/
def id : Rule → String
  | .duplicateConfigValue => "duplicate-config-value"
  | .missingInclude => "missing-include"
  | .overshadowedConfigValue _ => "overshadowed-config-value"
  | .undefinedTemplateValue => "undefined-template-value"
  | .unusedConfigPatchValue _ => "unused-config-patch-value"
  | .unusedConfigValue => "unused-config-value"
  | .unusedInclude => "unused-include"
  | .unusedSecretValue => "unused-secret-value"

/-- The name that a rule is shown by. -/
def title : Rule → String
  | .duplicateConfigValue => "Duplicate Config Value"
  | .missingInclude => "Missing Include"
  | .overshadowedConfigValue _ => "Overshadowed Config Value"
  | .undefinedTemplateValue => "Undefined Template Value"
  | .unusedConfigPatchValue _ => "Unused Config Patch Value"
  | .unusedConfigValue => "Unused Config Value"
  | .unusedInclude => "Unused Include"
  | .unusedSecretValue => "Unused Secret Value"

def description : Rule → String
  | .duplicateConfigValue => "Detects installation overrides that repeat the base config value"
  | .missingInclude => "Detects templates that include a non-existent include file"
  | .overshadowedConfigValue _ => "Detects base config values overridden by most installations"
  | .undefinedTemplateValue =>
    "Detects template values that are not defined for every installation"
  | .unusedConfigPatchValue _ =>
    "Detects installation override values that no app, or very few apps, consume"
  | .unusedConfigValue => "Detects base config values consumed by no app or by a single app"
  | .unusedInclude => "Detects include files never referenced by a template or another include"
  | .unusedSecretValue => "Detects installation secret values that no secret template consumes"

/-- The gravest severity that a rule reports. -/
def severity (_ : Rule) : Severity := .error

/-- What a rule finds in a repository. -/
def findings (s : Survey) : Rule → List Finding
  | .duplicateConfigValue => LayerCheck.duplicates s
  | .missingInclude => TemplateCheck.missingFragments s
  | .overshadowedConfigValue threshold => LayerCheck.overshadowed threshold s
  | .undefinedTemplateValue => TemplateCheck.undefinedValues s
  | .unusedConfigPatchValue threshold => LayerCheck.unusedInOverrides threshold s
  | .unusedConfigValue => LayerCheck.unusedInBase s
  | .unusedInclude => TemplateCheck.unusedFragments s
  | .unusedSecretValue => LayerCheck.unusedSecrets s

/-- The diagnostics of a rule. -/
def check (r : Rule) (s : Survey) : List Diagnostic :=
  (r.findings s).map fun finding => { finding with rule := r.id }

/-- Every rule, at two thresholds. -/
def all (overshadow patchUsage : Binary64) : List Rule :=
  [.duplicateConfigValue, .missingInclude, .overshadowedConfigValue overshadow,
   .undefinedTemplateValue, .unusedConfigPatchValue patchUsage, .unusedConfigValue,
   .unusedInclude, .unusedSecretValue]

/-- The rule of a name, at a threshold if it has one. -/
def ofId? (name : String) (threshold : Binary64) : Option Rule :=
  (all threshold threshold).find? fun r => r.id = name

end Rule

end LayerLint
