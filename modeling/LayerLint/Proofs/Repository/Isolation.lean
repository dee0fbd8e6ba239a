-- What one installation cannot change. Repositories that are loaded from stores which differ in
-- one installation only are the same but for this installation, and so is what the others take
-- and lack.
import LayerLint.Proofs.Repository.Encounter
import LayerLint.Proofs.Repository.Outside

namespace LayerLint.Repository

/-! ## Two stores -/

variable {σ τ : Type} [FileStore σ] [FileStore τ] {a : σ} {b : τ} {name : String}
  {vocabulary : Template.Vocabulary}

/-- Directories that are listed alike have the same directories in them. -/
theorem mem_subdirectories_congr {path : String} {names others : List String}
    (ha : subdirectories a path = .ok names) (hb : subdirectories b path = .ok others)
    {other : String} (h : ∀ entry : DirectoryEntry, entry.name = other →
      (Lists a path entry ↔ Lists b path entry)) : other ∈ names ↔ other ∈ others := by
  rw [mem_subdirectories_iff ha, mem_subdirectories_iff hb]
  refine exists_congr fun entry => ?_
  constructor
  · rintro ⟨hlists, hdirectory, hname⟩
    exact ⟨(h entry hname).1 hlists, hdirectory, hname⟩
  · rintro ⟨hlists, hdirectory, hname⟩
    exact ⟨(h entry hname).2 hlists, hdirectory, hname⟩

theorem loadLayer_congr {role : LayerRole} {file : LayoutFile}
    (h : FileStore.read a file.path = FileStore.read b file.path) :
    loadLayer a role file = loadLayer b role file := by
  unfold loadLayer contentsOf
  rw [h]

theorem loadTemplate_congr {role : TemplateRole} {path : String}
    (h : FileStore.read a path = FileStore.read b path) :
    loadTemplate a vocabulary role path = loadTemplate b vocabulary role path := by
  unfold loadTemplate contentsOf
  rw [h]

theorem loadTemplateIfAny_congr {role : TemplateRole} {file : LayoutFile}
    (h : FileStore.read a file.path = FileStore.read b file.path) :
    loadTemplateIfAny a vocabulary role file = loadTemplateIfAny b vocabulary role file := by
  unfold loadTemplateIfAny
  rw [loadTemplate_congr h]

/-! Parts of a repository are loaded alike if the files at their places are read alike. -/

theorem loadLayers_congr
    (hoverride : FileStore.read a (LayerPlace.override name).path =
      FileStore.read b (LayerPlace.override name).path)
    (hsecret : FileStore.read a (LayerPlace.secret name).path =
      FileStore.read b (LayerPlace.secret name).path) :
    loadLayers a name = loadLayers b name := by
  have hfirst : ∀ role, loadLayer a role (.configPatch name) =
      loadLayer b role (.configPatch name) := fun _ => loadLayer_congr hoverride
  have hsecond : ∀ role, loadLayer a role (.secret name) = loadLayer b role (.secret name) :=
    fun _ => loadLayer_congr hsecret
  simp only [loadLayers, hfirst, hsecond]

theorem loadPair_congr {role : Family → TemplateRole} {file : Family → LayoutFile}
    {place : Family → TemplatePlace} (hpath : ∀ family, (file family).path = (place family).path)
    (h : ∀ family, FileStore.read a (place family).path = FileStore.read b (place family).path) :
    loadPair a vocabulary role file = loadPair b vocabulary role file := by
  have htemplate : ∀ family, loadTemplateIfAny a vocabulary (role family) (file family) =
      loadTemplateIfAny b vocabulary (role family) (file family) := by
    intro family
    apply loadTemplateIfAny_congr
    rw [hpath]
    exact h family
  simp only [loadPair, htemplate]

end LayerLint.Repository

namespace LayerLint

open Repository

namespace AgreeOutside

variable {σ τ : Type} [FileStore σ] [FileStore τ] {a : σ} {b : τ} {name : String}
  {vocabulary : Template.Vocabulary}

theorem symm (h : AgreeOutside name a b) : AgreeOutside name b a where
  layer place hplain hplace := (h.layer place hplain hplace).symm
  template place hplain hplace := (h.template place hplain hplace).symm
  installations entry hentry := (h.installations entry hentry).symm
  defaultApps entry := (h.defaultApps entry).symm
  patchedApps other hplain hother :=
    ⟨(h.patchedApps other hplain hother).1.symm,
      fun entry => ((h.patchedApps other hplain hother).2 entry).symm⟩
  fragments := ⟨h.fragments.1.symm, fun entry => (h.fragments.2 entry).symm⟩

/-! ## Parts that are loaded alike -/

theorem loadLayers_eq (h : AgreeOutside name a b) {other : String} (hplain : Plain other)
    (hother : other ≠ name) : loadLayers a other = loadLayers b other := by
  have hplace : some other ≠ some name := by simpa using hother
  apply loadLayers_congr
  · exact h.layer (.override other) hplain hplace
  · exact h.layer (.secret other) hplain hplace

theorem loadDefaults_eq (h : AgreeOutside name a b) {app : String} (hplain : Plain app) :
    loadDefaults a vocabulary app = loadDefaults b vocabulary app :=
  loadPair_congr (TemplatePlace.path_ofDefault app) fun family =>
    h.template (.default app family) hplain nofun

theorem loadPatches_eq (h : AgreeOutside name a b) {other app : String} (hplain : Plain other)
    (happ : Plain app) (hother : other ≠ name) :
    loadPatches a vocabulary other app = loadPatches b vocabulary other app := by
  have hplace : some other ≠ some name := by simpa using hother
  apply loadPair_congr (TemplatePlace.path_ofPatch other app)
  intro family
  exact h.template (.patch other app family) ⟨hplain, happ⟩ hplace

theorem loadInstallation_eq (h : AgreeOutside name a b) {other : String} (hplain : Plain other)
    (hother : other ≠ name) {layers : Layer × Layer} {i j : Installation}
    (hi : loadInstallation a vocabulary other layers = .ok i)
    (hj : loadInstallation b vocabulary other layers = .ok j) : i = j := by
  obtain ⟨apps, happs, hi⟩ := bind_eq_ok hi
  obtain ⟨patches, hpatches, hi⟩ := bind_eq_ok hi
  obtain ⟨others, hothers, hj⟩ := bind_eq_ok hj
  obtain ⟨more, hmore, hj⟩ := bind_eq_ok hj
  cases hi
  cases hj
  obtain ⟨hhas, hlists⟩ := h.patchedApps other hplain hother
  have hnames : ∀ app, app ∈ apps ↔ app ∈ others := by
    unfold subdirectoriesIfAny at happs hothers
    rw [hhas] at happs
    split at happs
    · rename_i hthere
      rw [if_pos hthere] at hothers
      exact fun app => mem_subdirectories_congr happs hothers fun entry _ => hlists entry
    · rename_i hgone
      rw [if_neg hgone] at hothers
      cases happs
      cases hothers
      exact fun app => Iff.rfl
  have hpatch : patches = more := forNames_eq hpatches hmore hnames fun app happ =>
    h.loadPatches_eq hplain ((mem_subdirectoriesIfAny_iff happs).1 happ).2.plain hother
  rw [hpatch]

theorem loadFragments_eq (h : AgreeOutside name a b) {m n : SortedMap TemplateFile}
    (hm : loadFragments a vocabulary = .ok m) (hn : loadFragments b vocabulary = .ok n) :
    m = n := by
  obtain ⟨hhas, hlists⟩ := h.fragments
  unfold loadFragments at hm hn
  rw [hhas] at hm
  split at hm
  · rename_i hthere
    rw [if_pos hthere] at hn
    obtain ⟨entries, hentries, hm⟩ := bind_eq_ok hm
    obtain ⟨others, hothers, hn⟩ := bind_eq_ok hn
    have hmem : ∀ entry, entry ∈ entries ↔ entry ∈ others := by
      intro entry
      rw [← lists_of_entriesOf hentries, ← lists_of_entriesOf hothers, hlists]
    refine forNames_eq hm hn (fun path => ?_) fun path hpath => ?_
    · simp only [List.mem_map, List.mem_filter, hmem]
    · obtain ⟨entry, _, rfl⟩ := List.mem_map.1 hpath
      exact loadTemplate_congr (h.template (.fragment entry.name) entry.plain nofun)
  · rename_i hgone
    rw [if_neg hgone] at hn
    cases hm
    cases hn
    rfl

end AgreeOutside

/-! ## The whole repository -/

namespace Repository

/-- Repositories that are the same but for one installation. -/
structure SameOutside (name : String) (r q : Repository) : Prop where
  base : r.base = q.base
  defaults : r.defaults = q.defaults
  fragments : r.fragments = q.fragments
  installation : ∀ other, other ≠ name → r.installations.get? other = q.installations.get? other

variable {σ τ : Type} [FileStore σ] [FileStore τ] {a : σ} {b : τ} {name : String}
  {vocabulary : Template.Vocabulary} {r q : Repository}

/-- An installation that is loaded from one store is loaded from the other. -/
theorem get?_installations_of_load (h : AgreeOutside name a b) (hr : load a vocabulary = .ok r)
    (hq : load b vocabulary = .ok q) {other : String} (hother : other ≠ name) {i : Installation}
    (hi : r.installations.get? other = some i) : q.installations.get? other = some i := by
  obtain ⟨names, layers, _, _, hnames, hlayers, _, _, hinstallations, _⟩ := parts_of_load hr
  obtain ⟨names', layers', _, _, hnames', hlayers', _, _, hinstallations', _⟩ := parts_of_load hq
  obtain ⟨two, htwo, hi⟩ := (get?_forEntries_iff hinstallations).1 hi
  obtain ⟨hmem, htwo⟩ := (get?_forNames_iff hlayers).1 htwo
  have hplain := ((mem_subdirectories_iff hnames).1 hmem).plain
  have hmem' : other ∈ names' :=
    (mem_subdirectories_congr hnames hnames' fun entry hname =>
      h.installations entry (hname ▸ hother)).1 hmem
  have htwo' : layers'.get? other = some two :=
    (get?_forNames_iff hlayers').2 ⟨hmem', by rw [← h.loadLayers_eq hplain hother, htwo]⟩
  obtain ⟨j, hj⟩ := exists_made_of_forEntries hinstallations' (SortedMap.get?_eq_some_iff.1 htwo')
  obtain ⟨two', htwo'', hmade⟩ := (get?_forEntries_iff hinstallations').1 hj
  cases htwo'.symm.trans htwo''
  rw [hj, h.loadInstallation_eq hplain hother hi hmade]

/-- Stores that agree outside of one installation hold repositories that are the same outside of
it. -/
theorem sameOutside_of_load (h : AgreeOutside name a b) (hr : load a vocabulary = .ok r)
    (hq : load b vocabulary = .ok q) : SameOutside name r q := by
  obtain ⟨_, _, apps, hbase, _, _, happs, hdefaults, _, hfragments⟩ := parts_of_load hr
  obtain ⟨_, _, apps', hbase', _, _, happs', hdefaults', _, hfragments'⟩ := parts_of_load hq
  refine ⟨?_, ?_, h.loadFragments_eq hfragments hfragments', fun other hother => ?_⟩
  · have hload : loadLayer a .base .config = loadLayer b .base .config :=
      loadLayer_congr (h.layer .base trivial nofun)
    exact Except.ok.inj (hbase.symm.trans (hload.trans hbase'))
  · refine forNames_eq hdefaults hdefaults' (fun app => ?_) fun app happ => ?_
    · exact mem_subdirectories_congr happs happs' fun entry _ => h.defaultApps entry
    · exact h.loadDefaults_eq ((mem_subdirectories_iff happs).1 happ).plain
  · refine Option.ext fun i => ⟨?_, ?_⟩
    · exact get?_installations_of_load h hr hq hother
    · exact get?_installations_of_load h.symm hq hr hother

/-! ## What the others take and lack -/

/-- The path of a template in an installation is below the directory of the installation. -/
theorem below_of_templatePlace {place : TemplatePlace} (h : place.installation? = some name) :
    (Layout.installationStart name).toList <+: place.path.toList := by
  have hbelow : ∀ segment more, (Layout.installationStart name).toList <+:
      (Layout.pathOf ("installations" :: name :: segment :: more)).toList := by
    intro segment more
    refine ⟨(Layout.pathOf (segment :: more)).toList, ?_⟩
    simp [Layout.installationStart, Layout.pathOf, Text.paste]
  rcases place with ⟨app, family⟩ | ⟨i, app, _ | _⟩ | fragment
  · cases h
  · cases h
    exact hbelow _ _
  · cases h
    exact hbelow _ _
  · cases h

/-- A layer of an installation is read in this installation only. -/
theorem Placed.installation_of_mem_layersOf (h : Placed r) {other : String} {i : Installation}
    (hi : (other, i) ∈ r.installations.entries) {family : Family} {l : Layer}
    (hl : l ∈ r.layersOf i family) {place : LayerPlace} (hplace : r.layer? place = some l)
    {owner : String} (howner : place.installation? = some owner) : other = owner := by
  have hsome : ∀ q : LayerPlace, r.layer? q = some l →
      q.installation? = some other ∨ q = .base → other = owner := by
    rintro q hq hother
    cases h.layerPlace_eq hplace hq
    rcases hother with hother | rfl
    · exact Option.some.inj (hother.symm.trans howner)
    · cases howner
  cases family with
  | config =>
    rcases List.mem_cons.1 hl with rfl | hl
    · exact hsome (.override other) (layer?_override hi) (.inl rfl)
    · cases List.mem_singleton.1 hl
      exact hsome .base rfl (.inr rfl)
  | secret =>
    cases List.mem_singleton.1 hl
    exact hsome (.secret other) (layer?_secret hi) (.inl rfl)

namespace SameOutside

theorem symm (h : SameOutside name r q) : SameOutside name q r where
  base := h.base.symm
  defaults := h.defaults.symm
  fragments := h.fragments.symm
  installation other hother := (h.installation other hother).symm

theorem template?_eq (h : SameOutside name r q) {place : TemplatePlace}
    (hplace : place.installation? ≠ some name) : r.template? place = q.template? place := by
  rcases place with ⟨app, family⟩ | ⟨i, app, family⟩ | fragment
  · simp only [template?, defaultTemplate?, h.defaults]
  · have hi : i ≠ name := fun heq => hplace (congrArg some heq)
    simp only [template?, h.installation i hi]
  · simp only [template?, h.fragments]

theorem mem_templates (h : SameOutside name r q) (hr : Placed r) {t : TemplateFile}
    (hout : ¬(Layout.installationStart name).toList <+: t.path.toList) (ht : t ∈ r.templates) :
    t ∈ q.templates := by
  obtain ⟨place, hplace⟩ := hr.template_of_mem ht
  have hpath := (hr.template place t hplace).2
  rw [h.template?_eq fun hname => hout (hpath ▸ below_of_templatePlace hname)] at hplace
  exact mem_of_template? hplace

theorem mem_entries (h : SameOutside name r q) {other : String} (hother : other ≠ name)
    {i : Installation} (hi : (other, i) ∈ r.installations.entries) :
    (other, i) ∈ q.installations.entries := by
  rw [← SortedMap.get?_eq_some_iff, ← h.installation other hother]
  exact SortedMap.get?_eq_some_iff.2 hi

theorem hasTemplate (h : SameOutside name r q) {i : Installation} {app : String}
    {family : Family} {t : TemplateFile} (ht : r.HasTemplate i app family t) :
    q.HasTemplate i app family t := by
  unfold HasTemplate defaultTemplate? at *
  rwa [← h.defaults]

theorem leftToPatch (h : SameOutside name r q) {i : Installation} {app : String}
    {family : Family} {t : TemplateFile} {reference : String}
    (ht : r.LeftToPatch i app family t reference) : q.LeftToPatch i app family t reference := by
  unfold LeftToPatch defaultTemplate? at *
  rwa [← h.defaults]

theorem layersOf_eq (h : SameOutside name r q) (i : Installation) (family : Family) :
    r.layersOf i family = q.layersOf i family := by
  cases family with
  | config => simp only [layersOf, h.base]
  | secret => rfl

/-- What another installation lacks, it lacks in both repositories. -/
theorem lacks (h : SameOutside name r q) {owner : TemplateFile} {reference other : String}
    (hother : other ≠ name) (hlacks : r.Lacks owner reference other) :
    q.Lacks owner reference other := by
  obtain ⟨i, hi, app, _, family, t, ht, howner, hnone, hleft⟩ := hlacks
  have hi := h.mem_entries hother hi
  have ht := h.hasTemplate ht
  refine ⟨i, hi, app, mem_apps_of_hasTemplate hi ht, family, t, ht,
    howner.of_fragments_eq h.fragments, ?_, fun hpatch => hleft (h.symm.leftToPatch hpatch)⟩
  rwa [← h.layersOf_eq]

/-- What is taken from a layer of another installation is taken from it in both repositories. -/
theorem takes (h : SameOutside name r q) (hr : Placed r) {place : LayerPlace} {layer : Layer}
    (hplace : r.layer? place = some layer) {other : String}
    (hinstallation : place.installation? = some other) (hother : other ≠ name) {leaf : String}
    {t : TemplateFile} (htakes : r.Takes t layer leaf) : q.Takes t layer leaf := by
  obtain ⟨⟨reader, i⟩, hi, app, _, family, ht, owner, howner, reference, hreference, hgives,
    hleaf, hleft⟩ := htakes
  obtain rfl := hr.installation_of_mem_layersOf hi hgives.mem hplace hinstallation
  have hi := h.mem_entries hother hi
  have ht := h.hasTemplate ht
  refine ⟨(reader, i), hi, app, mem_apps_of_hasTemplate hi ht, family, ht, owner,
    howner.of_fragments_eq h.fragments, reference, hreference, ?_, hleaf,
    fun hpatch => hleft ⟨hpatch.1, h.symm.leftToPatch hpatch.2⟩⟩
  rwa [← h.layersOf_eq]

end SameOutside

end Repository

end LayerLint
