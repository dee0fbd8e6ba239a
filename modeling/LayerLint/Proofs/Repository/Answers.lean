-- Loading asks a store for the directories of the layout and for the files at the places that these
-- name. A store that answers all these questions as another one does holds the same repository.
import LayerLint.Proofs.Repository.Isolation

namespace LayerLint

open Repository

/-- A store answers as another one does wherever loading from that one looks. -/
structure AnswersAs {σ τ : Type} [FileStore σ] [FileStore τ] (a : σ) (b : τ) : Prop where
  layer : ∀ place : LayerPlace, place.IsListed a →
    FileStore.read a place.path = FileStore.read b place.path
  template : ∀ place : TemplatePlace, place.IsListed a →
    FileStore.read a place.path = FileStore.read b place.path
  installations : ∀ names, subdirectories a Layout.installations = .ok names →
    subdirectories b Layout.installations = .ok names
  defaultApps : ∀ names, subdirectories a Layout.defaultApps = .ok names →
    subdirectories b Layout.defaultApps = .ok names
  installationApps : ∀ name, ListsDirectory a Layout.installations name → ∀ names,
    subdirectoriesIfAny a (Layout.installationApps name) = .ok names →
      subdirectoriesIfAny b (Layout.installationApps name) = .ok names
  fragments : (FileStore.has a Layout.fragments = FileStore.has b Layout.fragments) ∧
    ∀ entries, entriesOf a Layout.fragments = .ok entries →
      entriesOf b Layout.fragments = .ok entries

namespace Repository

/-! ## Values that are made alike -/

section Made

variable {α β : Type}

/-- Values that can be made can be made in every other way that makes them. -/
theorem forEntries_of_forall {make made : String → α → Except LoadError β}
    {entries : List (String × α)} {m : SortedMap β} (h : forEntries make entries = .ok m)
    (hmade : ∀ e ∈ entries, ∀ value, make e.1 e.2 = .ok value → made e.1 e.2 = .ok value) :
    forEntries made entries = .ok m := by
  induction entries generalizing m with
  | nil => exact h
  | cons first rest ih =>
    obtain ⟨hfirst, hrest⟩ := List.forall_mem_cons.1 hmade
    simp only [forEntries] at h ⊢
    split at h
    · cases h
    · rename_i value hvalue
      split at h
      · cases h
      · rename_i others hothers
        rw [hfirst value hvalue, ih hothers hrest]
        exact h

theorem forNames_of_forall {make made : String → Except LoadError β} {names : List String}
    {m : SortedMap β} (h : forNames make names = .ok m)
    (hmade : ∀ name ∈ names, ∀ value, make name = .ok value → made name = .ok value) :
    forNames made names = .ok m := by
  refine forEntries_of_forall h fun e he value hvalue => ?_
  obtain ⟨name, hname, rfl⟩ := List.mem_map.1 he
  exact hmade name hname value hvalue

end Made

end Repository

/-! ## Parts of a repository -/

namespace AnswersAs

variable {σ τ : Type} [FileStore σ] [FileStore τ] {a : σ} {b : τ}
  {vocabulary : Template.Vocabulary} {name app : String}

theorem loadLayers_eq (h : AnswersAs a b) (hname : ListsDirectory a Layout.installations name) :
    loadLayers a name = loadLayers b name := by
  apply loadLayers_congr
  · exact h.layer (.override name) hname
  · exact h.layer (.secret name) hname

theorem loadDefaults_eq (h : AnswersAs a b) (happ : ListsDirectory a Layout.defaultApps app) :
    loadDefaults a vocabulary app = loadDefaults b vocabulary app :=
  loadPair_congr (TemplatePlace.path_ofDefault app) fun family =>
    h.template (.default app family) happ

theorem loadPatches_eq (h : AnswersAs a b)
    (hlisted : ∀ family, (TemplatePlace.patch name app family).IsListed a) :
    loadPatches a vocabulary name app = loadPatches b vocabulary name app :=
  loadPair_congr (TemplatePlace.path_ofPatch name app) fun family =>
    h.template (.patch name app family) (hlisted family)

theorem loadInstallation_eq_ok (h : AnswersAs a b)
    (hname : ListsDirectory a Layout.installations name) {layers : Layer × Layer}
    {i : Installation} (hi : loadInstallation a vocabulary name layers = .ok i) :
    loadInstallation b vocabulary name layers = .ok i := by
  obtain ⟨apps, happs, hi⟩ := bind_eq_ok hi
  obtain ⟨patches, hpatches, hi⟩ := bind_eq_ok hi
  have hothers := h.installationApps name hname apps happs
  have hmade : forNames (loadPatches b vocabulary name) apps = .ok patches := by
    refine forNames_of_forall hpatches fun app happ found hfound => ?_
    have hlisted := (mem_subdirectoriesIfAny_iff happs).1 happ
    rw [← h.loadPatches_eq fun _ => ⟨hname, hlisted⟩]
    exact hfound
  rw [← hi, loadInstallation, hothers]
  simp only [hmade, bind, Except.bind]

theorem loadFragments_eq_ok (h : AnswersAs a b) {fragments : SortedMap TemplateFile}
    (hload : loadFragments a vocabulary = .ok fragments) :
    loadFragments b vocabulary = .ok fragments := by
  obtain ⟨hhas, hcarry⟩ := h.fragments
  unfold loadFragments at hload ⊢
  split at hload
  · rename_i hthere
    obtain ⟨entries, hentries, hload⟩ := bind_eq_ok hload
    have hmade : forNames (loadTemplate b vocabulary .fragment)
        ((entries.filter fun e => !e.isDirectory).map fun e =>
          Layout.pathOf [Layout.fragments, e.name]) = .ok fragments := by
      refine forNames_of_forall hload fun path hpath found hfound => ?_
      obtain ⟨entry, hentry, rfl⟩ := List.mem_map.1 hpath
      obtain ⟨hmem, hfile⟩ := List.mem_filter.1 hentry
      have hlisted : (TemplatePlace.fragment entry.name).IsListed a :=
        ⟨hthere, entry, (lists_of_entriesOf hentries).2 hmem, by simpa using hfile, rfl⟩
      exact (loadTemplate_congr (h.template (.fragment entry.name) hlisted)).symm.trans hfound
    rw [if_pos (hhas ▸ hthere), hcarry entries hentries]
    exact hmade
  · rename_i hgone
    rw [if_neg (hhas ▸ hgone)]
    exact hload

/-! ## The whole repository -/

/-- What is loaded from a store is loaded from every other one that answers as it does. -/
theorem load_eq_ok (h : AnswersAs a b) {r : Repository} (hr : load a vocabulary = .ok r) :
    load b vocabulary = .ok r := by
  obtain ⟨names, layers, apps, hbase, hnames, hlayers, happs, hdefaults, hinstallations,
    hfragments⟩ := parts_of_load hr
  have hlisted : ∀ {name}, name ∈ names → ListsDirectory a Layout.installations name :=
    fun hname => (mem_subdirectories_iff hnames).1 hname
  have hbase' : loadLayer b .base .config = .ok r.base :=
    (loadLayer_congr (h.layer .base trivial)).symm.trans hbase
  have hlayers' : forNames (loadLayers b) names = .ok layers :=
    forNames_of_forall hlayers fun name hname value hvalue =>
      h.loadLayers_eq (hlisted hname) ▸ hvalue
  have hdefaults' : forNames (loadDefaults b vocabulary) apps = .ok r.defaults :=
    forNames_of_forall hdefaults fun app happ value hvalue =>
      h.loadDefaults_eq ((mem_subdirectories_iff happs).1 happ) ▸ hvalue
  have hinstallations' : forEntries (loadInstallation b vocabulary) layers.entries =
      .ok r.installations := by
    refine forEntries_of_forall hinstallations fun e he value hvalue => ?_
    have hname := (mem_keys_forNames_iff hlayers).1 (List.mem_map_of_mem he)
    exact h.loadInstallation_eq_ok (hlisted hname) hvalue
  rw [load, hbase']
  simp only [bind, Except.bind, h.installations names hnames, hlayers', h.defaultApps apps happs,
    hdefaults', hinstallations', h.loadFragments_eq_ok hfragments]
  rfl

end AnswersAs

end LayerLint
