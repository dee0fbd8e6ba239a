-- What a run of the linter can be set to.
import LayerLint.Number.Binary64

namespace LayerLint

/-- Settings: the share of installations from which on a value of the base is overshadowed, the
share of apps up to which a value of an override is hardly used, the rules that do not run, and
the number of diagnostics that are shown, nought standing for all. -/
structure Settings where
  overshadowThreshold : Binary64
  patchUsageThreshold : Binary64
  disabledRules : List String
  maxMessages : Nat
  deriving DecidableEq, Repr

namespace Settings

/-- Three quarters, one quarter, no rule, fifty. -/
def default : Settings :=
  ⟨Binary64.ofQuotient false 3 4, Binary64.ofQuotient false 1 4, [], 50⟩

end Settings

end LayerLint
