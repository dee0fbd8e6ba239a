-- A repository with all that is known of its values: who reads them, what stands over them, and
-- where they are missing.
import LayerLint.Repository.Encounter
import LayerLint.Repository.Load
import LayerLint.Repository.Overshadow

namespace LayerLint

/-- A repository and its encounters. -/
structure Survey where
  repository : Repository
  encounters : List Encounter

namespace Survey

def ofRepository (r : Repository) : Survey := ⟨r, r.encounters⟩

/-- Loads a repository and surveys it. -/
def load {σ : Type} [FileStore σ] (store : σ) (vocabulary : Template.Vocabulary) :
    Except LoadError Survey :=
  (Repository.load store vocabulary).map ofRepository

/-- Whether an encounter takes a leaf from a layer. -/
def takes (layerPath leaf : String) (e : Encounter) : Bool :=
  match e.outcome with
  | .given layer leaves => layer.path == layerPath && leaves.contains leaf
  | .patched => false
  | .missing => false

/-- The templates that take a leaf from a layer, in the order of the repository. -/
def usedBy (s : Survey) (layer : Layer) (leaf : String) : List TemplateFile :=
  let paths := (s.encounters.filter (takes layer.path leaf)).map fun e => e.source.path
  s.repository.templates.filter fun t => paths.contains t.path

/-- The layers that stand over a leaf of a layer. -/
def layersOver (s : Survey) (layer : Layer) (leaf : String) : List Layer :=
  (s.repository.overshadows.filter fun o => o.below.path == layer.path && o.leaf == leaf).map
    fun o => o.above

/-- Whether an encounter misses a reference of a template. -/
def misses (templatePath reference : String) (e : Encounter) : Bool :=
  match e.outcome with
  | .given _ _ => false
  | .patched => false
  | .missing => e.owner.path == templatePath && e.reference == reference

/-- The installations that a reference of a template is missing in. -/
def missingIn (s : Survey) (t : TemplateFile) (reference : String) : List String :=
  let names := (s.encounters.filter (misses t.path reference)).map fun e => e.installation
  s.repository.installations.keys.filter fun name => names.contains name

/-- The apps behind templates, in ascending order. -/
def consumers (templates : List TemplateFile) : List String :=
  Repository.distinct (templates.filterMap fun t => t.app)

end Survey

end LayerLint
