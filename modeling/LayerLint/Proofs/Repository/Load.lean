-- What is loaded stands at its place: the paths that are read are those of the layout, and a name
-- in a path comes from the listing of a directory. Where the listings name a place, exactly what is
-- read there stands at it.
import LayerLint.Proofs.FileStore.Memory
import LayerLint.Proofs.Repository.Place
import LayerLint.Repository.Load

namespace LayerLint

section Listed

variable {σ : Type} [FileStore σ]

/-- The listing of a directory names another directory. -/
def ListsDirectory (store : σ) (path name : String) : Prop :=
  ∃ entry, Lists store path entry ∧ entry.isDirectory = true ∧ entry.name = name

/-- The listing of a directory names a file. -/
def ListsFile (store : σ) (path name : String) : Prop :=
  ∃ entry, Lists store path entry ∧ entry.isDirectory = false ∧ entry.name = name

theorem ListsDirectory.plain {store : σ} {path name : String}
    (h : ListsDirectory store path name) : Plain name := by
  obtain ⟨entry, _, _, rfl⟩ := h
  exact entry.plain

theorem ListsFile.plain {store : σ} {path name : String} (h : ListsFile store path name) :
    Plain name := by
  obtain ⟨entry, _, _, rfl⟩ := h
  exact entry.plain

/-- The listings name a place, so that a template is looked for there. -/
def TemplatePlace.IsListed (store : σ) : TemplatePlace → Prop
  | .default app _ => ListsDirectory store Layout.defaultApps app
  | .patch installation app _ =>
    ListsDirectory store Layout.installations installation ∧
      FileStore.has store (Layout.installationApps installation) = true ∧
        ListsDirectory store (Layout.installationApps installation) app
  | .fragment name =>
    FileStore.has store Layout.fragments = true ∧ ListsFile store Layout.fragments name

/-- The listings name a place, so that a layer is read there. -/
def LayerPlace.IsListed (store : σ) : LayerPlace → Prop
  | .base => True
  | .override installation => ListsDirectory store Layout.installations installation
  | .secret installation => ListsDirectory store Layout.installations installation

theorem TemplatePlace.IsListed.namesPlain {store : σ} {place : TemplatePlace}
    (h : place.IsListed store) : place.NamesPlain := by
  cases place with
  | default app family => exact ListsDirectory.plain h
  | patch name app family => exact ⟨h.1.plain, h.2.2.plain⟩
  | fragment name => exact h.2.plain

theorem LayerPlace.IsListed.namesPlain {store : σ} {place : LayerPlace}
    (h : place.IsListed store) : place.NamesPlain := by
  cases place with
  | base => trivial
  | override name => exact ListsDirectory.plain h
  | secret name => exact ListsDirectory.plain h

end Listed

/-- What a template at a place is for. -/
def TemplatePlace.role : TemplatePlace → TemplateRole
  | .default _ family => .default family
  | .patch _ _ family => .patch family
  | .fragment _ => .fragment

theorem TemplatePlace.path_ofDefault (app : String) (family : Family) :
    (LayoutFile.ofDefault app family).path = (TemplatePlace.default app family).path := by
  cases family with
  | config => rfl
  | secret => rfl

theorem TemplatePlace.path_ofPatch (installation app : String) (family : Family) :
    (LayoutFile.ofPatch installation app family).path =
      (TemplatePlace.patch installation app family).path := by
  cases family with
  | config => rfl
  | secret => rfl

/-- What a layer at a place is for. -/
def LayerPlace.role : LayerPlace → LayerRole
  | .base => .base
  | .override _ => .override
  | .secret _ => .secret

/-- The file at a place. -/
def LayerPlace.file : LayerPlace → LayoutFile
  | .base => .config
  | .override installation => .configPatch installation
  | .secret installation => .secret installation

theorem LayerPlace.path_file (place : LayerPlace) : place.file.path = place.path := by
  cases place with
  | base => rfl
  | override name => rfl
  | secret name => rfl

namespace Repository

/-! ## Values that are made for names -/

section Made

variable {α β : Type} {key : String}

/-- A step that ends well is followed by the next. -/
theorem bind_eq_ok {ε α β : Type} {x : Except ε α} {f : α → Except ε β} {b : β}
    (h : x.bind f = .ok b) : ∃ a, x = .ok a ∧ f a = .ok b := by
  cases x with
  | error e => cases h
  | ok a => exact ⟨a, rfl, h⟩

theorem eq_ok_of_mem_toOption {ε α : Type} {x : Except ε α} {a : α} (h : a ∈ x.toOption) :
    x = .ok a := by
  cases x with
  | error e => cases h
  | ok b => exact congrArg _ (Option.some.inj h)

theorem made_of_forEntries {make : String → α → Except LoadError β}
    {entries : List (String × α)} {m : SortedMap β} (h : forEntries make entries = .ok m)
    {value : β} (hget : m.get? key = some value) :
    ∃ entry, (key, entry) ∈ entries ∧ make key entry = .ok value := by
  induction entries generalizing m with
  | nil =>
    cases h
    cases hget
  | cons first rest ih =>
    obtain ⟨name, entry⟩ := first
    simp only [forEntries] at h
    split at h
    · cases h
    · rename_i made hmade
      split at h
      · cases h
      · rename_i others hothers
        cases h
        rw [SortedMap.get?_insert] at hget
        split at hget
        · rename_i heq
          cases hget
          exact ⟨entry, heq ▸ List.mem_cons_self, heq ▸ hmade⟩
        · obtain ⟨entry, hmem, hmade⟩ := ih hothers hget
          exact ⟨entry, List.mem_cons_of_mem _ hmem, hmade⟩

theorem exists_made_of_forEntries {make : String → α → Except LoadError β}
    {entries : List (String × α)} {m : SortedMap β} (h : forEntries make entries = .ok m)
    {entry : α} (hmem : (key, entry) ∈ entries) : ∃ value, m.get? key = some value := by
  induction entries generalizing m with
  | nil => exact absurd hmem List.not_mem_nil
  | cons first rest ih =>
    simp only [forEntries] at h
    split at h
    · cases h
    · rename_i made _
      split at h
      · cases h
      · rename_i others hothers
        cases h
        rw [SortedMap.get?_insert]
        rcases List.mem_cons.1 hmem with rfl | hmem
        · exact ⟨made, if_pos rfl⟩
        · split
          · exact ⟨made, rfl⟩
          · exact ih hothers hmem

theorem get?_forEntries_iff {make : String → α → Except LoadError β} {given : SortedMap α}
    {m : SortedMap β} (h : forEntries make given.entries = .ok m) {value : β} :
    m.get? key = some value ↔
      ∃ entry, given.get? key = some entry ∧ make key entry = .ok value := by
  constructor
  · intro hget
    obtain ⟨entry, hmem, hmade⟩ := made_of_forEntries h hget
    exact ⟨entry, SortedMap.get?_eq_some_iff.2 hmem, hmade⟩
  · rintro ⟨entry, hentry, hmade⟩
    obtain ⟨other, hother⟩ := exists_made_of_forEntries h (SortedMap.get?_eq_some_iff.1 hentry)
    obtain ⟨found, hfound, hmake⟩ := made_of_forEntries h hother
    cases hentry.symm.trans (SortedMap.get?_eq_some_iff.2 hfound)
    cases hmade.symm.trans hmake
    exact hother

theorem mem_keys_forEntries_iff {make : String → α → Except LoadError β} {given : SortedMap α}
    {m : SortedMap β} (h : forEntries make given.entries = .ok m) :
    key ∈ m.keys ↔ key ∈ given.keys := by
  rw [SortedMap.mem_keys_iff, SortedMap.mem_keys_iff]
  constructor
  · rintro ⟨value, hvalue⟩
    obtain ⟨entry, hentry, _⟩ := (get?_forEntries_iff h).1 hvalue
    exact ⟨entry, hentry⟩
  · rintro ⟨entry, hentry⟩
    exact exists_made_of_forEntries h (SortedMap.get?_eq_some_iff.1 hentry)

variable {names others : List String}

theorem get?_forNames_iff {make : String → Except LoadError β} {m : SortedMap β}
    (h : forNames make names = .ok m) {value : β} :
    m.get? key = some value ↔ key ∈ names ∧ make key = .ok value := by
  have hmade : ∀ {value}, m.get? key = some value → key ∈ names ∧ make key = .ok value := by
    intro value hvalue
    obtain ⟨_, hmem, hmade⟩ := made_of_forEntries h hvalue
    obtain ⟨name, hname, heq⟩ := List.mem_map.1 hmem
    cases heq
    exact ⟨hname, hmade⟩
  refine ⟨hmade, fun ⟨hmem, hmake⟩ => ?_⟩
  obtain ⟨other, hother⟩ := exists_made_of_forEntries h (List.mem_map_of_mem hmem)
  cases hmake.symm.trans (hmade hother).2
  exact hother

theorem mem_keys_forNames_iff {make : String → Except LoadError β} {m : SortedMap β}
    (h : forNames make names = .ok m) : key ∈ m.keys ↔ key ∈ names := by
  rw [SortedMap.mem_keys_iff]
  constructor
  · rintro ⟨value, hvalue⟩
    exact ((get?_forNames_iff h).1 hvalue).1
  · intro hmem
    exact exists_made_of_forEntries h (List.mem_map_of_mem hmem)

/-- Values that are made alike for the same names are the same. -/
theorem forNames_eq {make made : String → Except LoadError β} {m n : SortedMap β}
    (hm : forNames make names = .ok m) (hn : forNames made others = .ok n)
    (hnames : ∀ name, name ∈ names ↔ name ∈ others)
    (hmake : ∀ name ∈ names, make name = made name) : m = n := by
  refine SortedMap.ext_get? fun name => Option.ext fun value => ?_
  rw [get?_forNames_iff hm, get?_forNames_iff hn, ← hnames]
  exact and_congr_right fun hmem => by rw [hmake name hmem]

end Made

variable {σ : Type} [FileStore σ] {store : σ} {vocabulary : Template.Vocabulary}

/-! ## Files and directories -/

theorem lists_of_entriesOf {path : String} {entries : List DirectoryEntry}
    (h : entriesOf store path = .ok entries) {entry : DirectoryEntry} :
    Lists store path entry ↔ entry ∈ entries := by
  unfold entriesOf at h
  cases hlist : FileStore.list store path with
  | error problem => rw [hlist] at h; cases h
  | ok found =>
    rw [hlist] at h
    cases h
    simp [Lists, hlist]

theorem mem_subdirectories_iff {path : String} {names : List String}
    (h : subdirectories store path = .ok names) {name : String} :
    name ∈ names ↔ ListsDirectory store path name := by
  unfold subdirectories at h
  cases hentries : entriesOf store path with
  | error e => rw [hentries] at h; cases h
  | ok entries =>
    rw [hentries] at h
    cases h
    simp [ListsDirectory, lists_of_entriesOf hentries, and_assoc]

theorem mem_subdirectoriesIfAny_iff {path : String} {names : List String}
    (h : subdirectoriesIfAny store path = .ok names) {name : String} :
    name ∈ names ↔ FileStore.has store path = true ∧ ListsDirectory store path name := by
  unfold subdirectoriesIfAny at h
  split at h
  · rename_i hthere
    rw [mem_subdirectories_iff h, and_iff_right hthere]
  · rename_i hgone
    cases h
    simp [hgone]

theorem contentsOf_eq_ok_iff {path : String} {octets : List UInt8} :
    contentsOf store path = .ok octets ↔ FileStore.read store path = .ok octets := by
  unfold contentsOf
  cases FileStore.read store path with
  | error problem => exact ⟨nofun, nofun⟩
  | ok found => simp

/-- A layer that is loaded is what its contents read as. -/
theorem read_of_loadLayer {role : LayerRole} {file : LayoutFile} {l : Layer}
    (h : loadLayer store role file = .ok l) :
    ∃ octets, FileStore.read store file.path = .ok octets ∧
      Layer.read file.path role octets = .ok l := by
  obtain ⟨octets, hoctets, hread⟩ := bind_eq_ok h
  exact ⟨octets, contentsOf_eq_ok_iff.1 hoctets, hread⟩

/-- A template that is loaded is what its contents read as. -/
theorem read_of_loadTemplate {role : TemplateRole} {path : String} {t : TemplateFile}
    (h : loadTemplate store vocabulary role path = .ok t) :
    ∃ octets, FileStore.read store path = .ok octets ∧
      TemplateFile.read vocabulary path role octets = .ok t := by
  obtain ⟨octets, hoctets, hread⟩ := bind_eq_ok h
  exact ⟨octets, contentsOf_eq_ok_iff.1 hoctets, hread⟩

theorem eq_of_loadLayer {role : LayerRole} {file : LayoutFile} {l : Layer}
    (h : loadLayer store role file = .ok l) : l.path = file.path ∧ l.role = role := by
  obtain ⟨octets, _, hread⟩ := read_of_loadLayer h
  unfold Layer.read at hread
  split at hread
  · split at hread
    · cases hread
    · cases hread
      exact ⟨rfl, rfl⟩
  · cases hread

theorem eq_of_loadTemplate {role : TemplateRole} {path : String} {t : TemplateFile}
    (h : loadTemplate store vocabulary role path = .ok t) : t.path = path ∧ t.role = role := by
  obtain ⟨octets, _, hread⟩ := read_of_loadTemplate h
  unfold TemplateFile.read at hread
  split at hread
  · split at hread
    · cases hread
    · cases hread
      exact ⟨rfl, rfl⟩
  · cases hread

/-- A template that need not be there is the one that is read at its path, if something is. -/
theorem eq_some_iff_of_loadTemplateIfAny {role : TemplateRole} {file : LayoutFile}
    {found : Option TemplateFile}
    (h : loadTemplateIfAny store vocabulary role file = .ok found) {t : TemplateFile} :
    found = some t ↔ loadTemplate store vocabulary role file.path = .ok t := by
  unfold loadTemplateIfAny at h
  split at h
  · rename_i hload
    cases h
    rw [hload, Option.some.injEq, Except.ok.injEq]
  · rename_i hload
    cases h
    simp [hload]
  · cases h

/-- A template that need not be there is not passed over if there are contents at its path. -/
theorem exists_of_loadTemplateIfAny {role : TemplateRole} {file : LayoutFile}
    {found : Option TemplateFile}
    (h : loadTemplateIfAny store vocabulary role file = .ok found) {octets : List UInt8}
    (hread : FileStore.read store file.path = .ok octets) : ∃ t, found = some t := by
  have hload : loadTemplate store vocabulary role file.path =
      TemplateFile.read vocabulary file.path role octets := by
    simp only [loadTemplate, contentsOf, hread]
    rfl
  unfold loadTemplateIfAny at h
  split at h
  · cases h
    exact ⟨_, rfl⟩
  · rename_i hgone
    rw [hload] at hgone
    unfold TemplateFile.read at hgone
    split at hgone
    · split at hgone
      · cases hgone
      · cases hgone
    · cases hgone
  · cases h

/-! ## Parts of a repository -/

theorem get?_of_loadPair {role : Family → TemplateRole} {file : Family → LayoutFile}
    {a : AppTemplates} (h : loadPair store vocabulary role file = .ok a) (family : Family) :
    loadTemplateIfAny store vocabulary (role family) (file family) = .ok (a.get? family) := by
  obtain ⟨config, hconfig, h⟩ := bind_eq_ok h
  obtain ⟨secret, hsecret, h⟩ := bind_eq_ok h
  cases h
  cases family with
  | config => exact hconfig
  | secret => exact hsecret

/-- An installation keeps its layers and gets the patches of its apps. -/
theorem parts_of_loadInstallation {name : String} {layers : Layer × Layer} {i : Installation}
    (h : loadInstallation store vocabulary name layers = .ok i) :
    i.override = layers.1 ∧ i.secret = layers.2 ∧
      ∃ apps, subdirectoriesIfAny store (Layout.installationApps name) = .ok apps ∧
        forNames (loadPatches store vocabulary name) apps = .ok i.patches := by
  obtain ⟨apps, happs, h⟩ := bind_eq_ok h
  obtain ⟨patches, hpatches, h⟩ := bind_eq_ok h
  cases h
  exact ⟨rfl, rfl, apps, happs, hpatches⟩

/-- A fragment is kept for each file in the directory of the fragments. -/
theorem mem_keys_loadFragments_iff {fragments : SortedMap TemplateFile}
    (h : loadFragments store vocabulary = .ok fragments) {path : String} :
    path ∈ fragments.keys ↔ ∃ name, (TemplatePlace.fragment name).IsListed store ∧
      path = (TemplatePlace.fragment name).path := by
  unfold loadFragments at h
  split at h
  · rename_i hthere
    obtain ⟨entries, hentries, h⟩ := bind_eq_ok h
    rw [mem_keys_forNames_iff h]
    simp only [List.mem_map, List.mem_filter, ← lists_of_entriesOf hentries]
    constructor
    · rintro ⟨entry, ⟨hlists, hfile⟩, rfl⟩
      exact ⟨entry.name, ⟨hthere, entry, hlists, by simpa using hfile, rfl⟩, rfl⟩
    · rintro ⟨_, ⟨_, entry, hlists, hfile, rfl⟩, rfl⟩
      exact ⟨entry, ⟨hlists, by simpa using hfile⟩, rfl⟩
  · rename_i hgone
    cases h
    constructor
    · exact nofun
    · rintro ⟨_, ⟨hthere, _⟩, _⟩
      exact absurd hthere hgone

theorem loaded_of_loadFragments {fragments : SortedMap TemplateFile}
    (h : loadFragments store vocabulary = .ok fragments) {path : String} {t : TemplateFile}
    (ht : fragments.get? path = some t) : loadTemplate store vocabulary .fragment path = .ok t := by
  unfold loadFragments at h
  split at h
  · obtain ⟨entries, _, h⟩ := bind_eq_ok h
    exact ((get?_forNames_iff h).1 ht).2
  · cases h
    cases ht

/-! ## The whole repository -/

/-- What a repository was loaded from. -/
theorem parts_of_load {r : Repository} (h : load store vocabulary = .ok r) :
    ∃ installations layers apps,
      loadLayer store .base .config = .ok r.base ∧
      subdirectories store Layout.installations = .ok installations ∧
      forNames (loadLayers store) installations = .ok layers ∧
      subdirectories store Layout.defaultApps = .ok apps ∧
      forNames (loadDefaults store vocabulary) apps = .ok r.defaults ∧
      forEntries (loadInstallation store vocabulary) layers.entries = .ok r.installations ∧
      loadFragments store vocabulary = .ok r.fragments := by
  obtain ⟨base, hbase, h⟩ := bind_eq_ok h
  obtain ⟨names, hnames, h⟩ := bind_eq_ok h
  obtain ⟨layers, hlayers, h⟩ := bind_eq_ok h
  obtain ⟨apps, happs, h⟩ := bind_eq_ok h
  obtain ⟨defaults, hdefaults, h⟩ := bind_eq_ok h
  obtain ⟨installations, hinstallations, h⟩ := bind_eq_ok h
  obtain ⟨fragments, hfragments, h⟩ := bind_eq_ok h
  cases h
  exact ⟨names, layers, apps, hbase, hnames, hlayers, happs, hdefaults, hinstallations, hfragments⟩

variable {r : Repository}

theorem mem_keys_defaults_iff (h : load store vocabulary = .ok r) {app : String} :
    app ∈ r.defaults.keys ↔ ListsDirectory store Layout.defaultApps app := by
  obtain ⟨_, _, apps, _, _, _, happs, hdefaults, _⟩ := parts_of_load h
  rw [mem_keys_forNames_iff hdefaults, mem_subdirectories_iff happs]

theorem mem_keys_installations_iff (h : load store vocabulary = .ok r) {name : String} :
    name ∈ r.installations.keys ↔ ListsDirectory store Layout.installations name := by
  obtain ⟨names, layers, _, _, hnames, hlayers, _, _, hinstallations, _⟩ := parts_of_load h
  rw [mem_keys_forEntries_iff hinstallations, mem_keys_forNames_iff hlayers,
    mem_subdirectories_iff hnames]

/-- An installation is made of the two layers that are loaded under its name, and of the patches of
the apps that it has a directory for. -/
theorem installation_of_load (h : load store vocabulary = .ok r) {name : String}
    {i : Installation} (hi : r.installations.get? name = some i) :
    loadLayer store .override (.configPatch name) = .ok i.override ∧
      loadLayer store .secret (.secret name) = .ok i.secret ∧
      ∃ apps, subdirectoriesIfAny store (Layout.installationApps name) = .ok apps ∧
        forNames (loadPatches store vocabulary name) apps = .ok i.patches := by
  obtain ⟨names, layers, _, _, hnames, hlayers, _, _, hinstallations, _⟩ := parts_of_load h
  obtain ⟨two, htwo, hmade⟩ := (get?_forEntries_iff hinstallations).1 hi
  obtain ⟨hover, hsecret, hpatches⟩ := parts_of_loadInstallation hmade
  obtain ⟨override, hoverride, htwo⟩ := bind_eq_ok ((get?_forNames_iff hlayers).1 htwo).2
  obtain ⟨secret, hsecond, htwo⟩ := bind_eq_ok htwo
  cases htwo
  exact ⟨hover ▸ hoverride, hsecret ▸ hsecond, hpatches⟩

theorem mem_keys_patches_iff (h : load store vocabulary = .ok r) {name : String}
    {i : Installation} (hi : r.installations.get? name = some i) {app : String} :
    app ∈ i.patches.keys ↔
      FileStore.has store (Layout.installationApps name) = true ∧
        ListsDirectory store (Layout.installationApps name) app := by
  obtain ⟨_, _, apps, happs, hpatches⟩ := installation_of_load h hi
  rw [mem_keys_forNames_iff hpatches, mem_subdirectoriesIfAny_iff happs]

/-- At a place stands the template that is read there. -/
theorem template_of_load (h : load store vocabulary = .ok r) {place : TemplatePlace}
    {t : TemplateFile} (ht : r.template? place = some t) :
    place.IsListed store ∧ loadTemplate store vocabulary place.role place.path = .ok t := by
  obtain ⟨_, _, _, _, _, _, _, hdefaults, _, hfragments⟩ := parts_of_load h
  cases place with
  | default app family =>
    obtain ⟨a, ha, ht⟩ := Option.bind_eq_some_iff.1 ht
    have hload := get?_of_loadPair ((get?_forNames_iff hdefaults).1 ha).2 family
    refine ⟨(mem_keys_defaults_iff h).1 (SortedMap.mem_keys_iff.2 ⟨a, ha⟩), ?_⟩
    exact TemplatePlace.path_ofDefault app family ▸ (eq_some_iff_of_loadTemplateIfAny hload).1 ht
  | patch name app family =>
    obtain ⟨i, hi, ht⟩ := Option.bind_eq_some_iff.1 ht
    obtain ⟨a, ha, ht⟩ := Option.bind_eq_some_iff.1 ht
    obtain ⟨_, _, _, _, hpatches⟩ := installation_of_load h hi
    have hload := get?_of_loadPair ((get?_forNames_iff hpatches).1 ha).2 family
    refine ⟨⟨?_, ?_⟩, ?_⟩
    · exact (mem_keys_installations_iff h).1 (SortedMap.mem_keys_iff.2 ⟨i, hi⟩)
    · exact (mem_keys_patches_iff h hi).1 (SortedMap.mem_keys_iff.2 ⟨a, ha⟩)
    · exact TemplatePlace.path_ofPatch name app family ▸
        (eq_some_iff_of_loadTemplateIfAny hload).1 ht
  | fragment name =>
    obtain ⟨other, hlisted, hpath⟩ :=
      (mem_keys_loadFragments_iff hfragments).1 (SortedMap.mem_keys_iff.2 ⟨t, ht⟩)
    cases TemplatePlace.fragment_path_inj hpath
    exact ⟨hlisted, loaded_of_loadFragments hfragments ht⟩

/-- At a place that the listings name a template stands, if there are contents to be read. -/
theorem exists_template_of_read (h : load store vocabulary = .ok r) {place : TemplatePlace}
    (hlisted : place.IsListed store) {octets : List UInt8}
    (hread : FileStore.read store place.path = .ok octets) : ∃ t, r.template? place = some t := by
  obtain ⟨_, _, _, _, _, _, _, hdefaults, _, hfragments⟩ := parts_of_load h
  cases place with
  | default app family =>
    obtain ⟨a, ha⟩ := SortedMap.mem_keys_iff.1 ((mem_keys_defaults_iff h).2 hlisted)
    have hload := get?_of_loadPair ((get?_forNames_iff hdefaults).1 ha).2 family
    rw [← TemplatePlace.path_ofDefault] at hread
    obtain ⟨t, ht⟩ := exists_of_loadTemplateIfAny hload hread
    exact ⟨t, Option.bind_eq_some_iff.2 ⟨a, ha, ht⟩⟩
  | patch name app family =>
    obtain ⟨i, hi⟩ := SortedMap.mem_keys_iff.1 ((mem_keys_installations_iff h).2 hlisted.1)
    obtain ⟨a, ha⟩ := SortedMap.mem_keys_iff.1 ((mem_keys_patches_iff h hi).2 hlisted.2)
    obtain ⟨_, _, _, _, hpatches⟩ := installation_of_load h hi
    have hload := get?_of_loadPair ((get?_forNames_iff hpatches).1 ha).2 family
    rw [← TemplatePlace.path_ofPatch] at hread
    obtain ⟨t, ht⟩ := exists_of_loadTemplateIfAny hload hread
    refine ⟨t, Option.bind_eq_some_iff.2 ⟨i, hi, Option.bind_eq_some_iff.2 ⟨a, ha, ht⟩⟩⟩
  | fragment name =>
    exact SortedMap.mem_keys_iff.1
      ((mem_keys_loadFragments_iff hfragments).2 ⟨name, hlisted, rfl⟩)

/-- At a place stands the layer that is read there. -/
theorem layer_of_load (h : load store vocabulary = .ok r) {place : LayerPlace} {l : Layer}
    (hl : r.layer? place = some l) :
    place.IsListed store ∧ loadLayer store place.role place.file = .ok l := by
  obtain ⟨_, _, _, hbase, _⟩ := parts_of_load h
  have hlisted : ∀ {name i}, r.installations.get? name = some i →
      ListsDirectory store Layout.installations name :=
    fun hi => (mem_keys_installations_iff h).1 (SortedMap.mem_keys_iff.2 ⟨_, hi⟩)
  cases place with
  | base =>
    cases hl
    exact ⟨trivial, hbase⟩
  | override name =>
    obtain ⟨i, hi, rfl⟩ := Option.map_eq_some_iff.1 hl
    exact ⟨hlisted hi, (installation_of_load h hi).1⟩
  | secret name =>
    obtain ⟨i, hi, rfl⟩ := Option.map_eq_some_iff.1 hl
    exact ⟨hlisted hi, (installation_of_load h hi).2.1⟩

theorem placed_of_load (h : load store vocabulary = .ok r) : Placed r := by
  obtain ⟨_, _, _, _, _, _, _, _, _, hfragments⟩ := parts_of_load h
  refine ⟨fun place t ht => ?_, fun place l hl => ?_, fun path t ht => ?_⟩
  · obtain ⟨hlisted, hload⟩ := template_of_load h ht
    exact ⟨hlisted.namesPlain, (eq_of_loadTemplate hload).1⟩
  · obtain ⟨hlisted, hload⟩ := layer_of_load h hl
    exact ⟨hlisted.namesPlain, (eq_of_loadLayer hload).1.trans place.path_file⟩
  · obtain ⟨name, _, hpath⟩ :=
      (mem_keys_loadFragments_iff hfragments).1 (SortedMap.mem_keys_iff.2 ⟨t, ht⟩)
    exact ⟨name, hpath⟩

end Repository

end LayerLint
