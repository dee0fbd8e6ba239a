-- Loading a repository from a store. The first failure counts; nothing is loaded in part.
import LayerLint.Repository.Basic

namespace LayerLint.Repository

variable {σ : Type} [FileStore σ]

/-! ## Files and directories -/

/-- Makes a value for each entry. -/
def forEntries {α β : Type} (make : String → α → Except LoadError β) :
    List (String × α) → Except LoadError (SortedMap β)
  | [] => .ok SortedMap.empty
  | (name, entry) :: rest =>
    match make name entry with
    | .error e => .error e
    | .ok value =>
      match forEntries make rest with
      | .error e => .error e
      | .ok others => .ok (others.insert name value)

/-- Makes a value for each name. -/
def forNames {α : Type} (make : String → Except LoadError α) (names : List String) :
    Except LoadError (SortedMap α) :=
  forEntries (fun name _ => make name) (names.map fun name => (name, ()))

def contentsOf (store : σ) (path : String) : Except LoadError (List UInt8) :=
  match FileStore.read store path with
  | .error problem => .error (.store path problem)
  | .ok octets => .ok octets

def entriesOf (store : σ) (path : String) : Except LoadError (List DirectoryEntry) :=
  match FileStore.list store path with
  | .error problem => .error (.store path problem)
  | .ok entries => .ok entries

/-- The directories in a directory. -/
def subdirectories (store : σ) (path : String) : Except LoadError (List String) :=
  (entriesOf store path).map fun entries =>
    (entries.filter (·.isDirectory)).map (·.name)

/-- The directories in a directory that need not be there. -/
def subdirectoriesIfAny (store : σ) (path : String) : Except LoadError (List String) :=
  if FileStore.has store path then subdirectories store path else .ok []

def loadLayer (store : σ) (role : LayerRole) (file : LayoutFile) : Except LoadError Layer :=
  (contentsOf store file.path).bind (Layer.read file.path role)

def loadTemplate (store : σ) (vocabulary : Template.Vocabulary) (role : TemplateRole)
    (path : String) : Except LoadError TemplateFile :=
  (contentsOf store path).bind (TemplateFile.read vocabulary path role)

/-- Loads a template that need not be there. -/
def loadTemplateIfAny (store : σ) (vocabulary : Template.Vocabulary) (role : TemplateRole)
    (file : LayoutFile) : Except LoadError (Option TemplateFile) :=
  match loadTemplate store vocabulary role file.path with
  | .ok template => .ok (some template)
  | .error (.store _ .notFound) => .ok none
  | .error e => .error e

/-! ## Parts of a repository -/

/-- The two layers of an installation. -/
def loadLayers (store : σ) (installation : String) : Except LoadError (Layer × Layer) := do
  let override ← loadLayer store .override (.configPatch installation)
  let secret ← loadLayer store .secret (.secret installation)
  return (override, secret)

/-- The two templates that an app has in one place, as far as they are there. -/
def loadPair (store : σ) (vocabulary : Template.Vocabulary) (role : Family → TemplateRole)
    (file : Family → LayoutFile) : Except LoadError AppTemplates := do
  let config ← loadTemplateIfAny store vocabulary (role .config) (file .config)
  let secret ← loadTemplateIfAny store vocabulary (role .secret) (file .secret)
  return ⟨config, secret⟩

def loadDefaults (store : σ) (vocabulary : Template.Vocabulary) (app : String) :
    Except LoadError AppTemplates :=
  loadPair store vocabulary .default (.ofDefault app)

def loadPatches (store : σ) (vocabulary : Template.Vocabulary) (installation app : String) :
    Except LoadError AppTemplates :=
  loadPair store vocabulary .patch (.ofPatch installation app)

/-- Completes an installation with the patches of every app that it has a directory for. -/
def loadInstallation (store : σ) (vocabulary : Template.Vocabulary) (installation : String)
    (layers : Layer × Layer) : Except LoadError Installation := do
  let apps ← subdirectoriesIfAny store (Layout.installationApps installation)
  let patches ← forNames (loadPatches store vocabulary installation) apps
  return ⟨layers.1, layers.2, patches⟩

/-- The fragments, by their paths. -/
def loadFragments (store : σ) (vocabulary : Template.Vocabulary) :
    Except LoadError (SortedMap TemplateFile) := do
  if FileStore.has store Layout.fragments then
    let entries ← entriesOf store Layout.fragments
    let files := entries.filter fun e => !e.isDirectory
    forNames (loadTemplate store vocabulary .fragment)
      (files.map fun e => Layout.pathOf [Layout.fragments, e.name])
  else return SortedMap.empty

/-! ## The whole repository -/

/-- Loads a repository: layers, then the templates of the apps, then patches, then fragments. -/
def load (store : σ) (vocabulary : Template.Vocabulary) : Except LoadError Repository := do
  let base ← loadLayer store .base .config
  let installations ← subdirectories store Layout.installations
  let layers ← forNames (loadLayers store) installations
  let apps ← subdirectories store Layout.defaultApps
  let defaults ← forNames (loadDefaults store vocabulary) apps
  let installations ← forEntries (loadInstallation store vocabulary) layers.entries
  let fragments ← loadFragments store vocabulary
  return ⟨base, installations, defaults, fragments⟩

end LayerLint.Repository
