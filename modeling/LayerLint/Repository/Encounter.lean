-- What becomes of every reference in every installation. A reference of a template is looked up
-- in the layers of its family; the first layer that has a leaf for it counts.
import LayerLint.Repository.Closure

namespace LayerLint

/-- What becomes of a reference: a layer gives it leaves, the patch of the template gives it
itself, or nothing does. -/
inductive Outcome where
  | given (layer : Layer) (leaves : List String)
  | patched
  | missing

/-- A reference of a template as one installation and one app meet it. The owner is the template
that the reference stands in: the source, or a fragment that the source brings in. -/
structure Encounter where
  installation : String
  app : String
  family : Family
  source : TemplateFile
  owner : TemplateFile
  reference : String
  outcome : Outcome

namespace Repository

/-- The layers that a family reads in an installation, the one that counts first in front. -/
def layersOf (r : Repository) (i : Installation) : Family → List Layer
  | .config => [i.override, r.base]
  | .secret => [i.secret]

/-- The first layer that has leaves for a reference. -/
def firstGiving (reference : String) : List Layer → Option (Layer × List String)
  | [] => none
  | layer :: rest =>
    match layer.resolve reference with
    | [] => firstGiving reference rest
    | leaf :: leaves => some (layer, leaf :: leaves)

/-- What becomes of a reference. A patch in the secret family takes the place of the layer; in
the other family it only makes up for a layer that is missing. -/
def outcomeOf (family : Family) (layers : List Layer) (patched : Bool) (reference : String) :
    Outcome :=
  if family = .secret ∧ patched then .patched
  else
    match firstGiving reference layers with
    | some (layer, leaves) => .given layer leaves
    | none => if patched then .patched else .missing

/-- The encounters of one template, over which a patch may stand. -/
def encountersOfSource (r : Repository) (name : String) (i : Installation) (app : String)
    (family : Family) (patch : Option TemplateFile) (source : TemplateFile) : List Encounter :=
  (r.closure source).flatMap fun owner =>
    owner.reads.keys.map fun reference =>
      { installation := name
        app := app
        family := family
        source := source
        owner := owner
        reference := reference
        outcome := outcomeOf family (r.layersOf i family)
          (patch.any fun p => p.supplies reference) reference }

/-- The encounters of an app's templates in one family: those of the patch, which nothing stands
over, then those of the template that holds everywhere. -/
def encountersOfApp (r : Repository) (name : String) (i : Installation) (app : String)
    (family : Family) : List Encounter :=
  let patch := i.patch? app family
  patch.toList.flatMap (r.encountersOfSource name i app family none) ++
    (r.defaultTemplate? app family).toList.flatMap (r.encountersOfSource name i app family patch)

/-- All encounters of a repository. -/
def encounters (r : Repository) : List Encounter :=
  r.installations.entries.flatMap fun i =>
    r.apps.flatMap fun app =>
      r.encountersOfApp i.1 i.2 app .config ++ r.encountersOfApp i.1 i.2 app .secret

end Repository

end LayerLint
