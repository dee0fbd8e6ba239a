-- What stands over a leaf. The override of an installation stands over every path of the base that
-- it gives anew; over an override or a secret layer nothing stands.
import LayerLint.Repository.Basic

namespace LayerLint

/-- That a layer gives a leaf of another anew. -/
structure Overshadow where
  below : Layer
  leaf : String
  above : Layer
  deriving DecidableEq

namespace Repository

/-- Every path that the override of an installation shares with the base. -/
def overshadows (r : Repository) : List Overshadow :=
  r.installations.entries.flatMap fun i =>
    (i.2.override.values.keys.filter r.base.values.contains).map fun leaf =>
      ⟨r.base, leaf, i.2.override⟩

end Repository

end LayerLint
