-- What is loaded from a store of files. Whatever files are stored, a repository holds each file of
-- the layout once and no other file, and finds it under the names that stand in its path.
import LayerLint.Proofs.Repository.Directory
import LayerLint.Proofs.Survey.Usage
import Mathlib.Data.List.Basic

namespace LayerLint

open MemoryStore

/-! ## Places in a store of files -/

section Places

variable {m : MemoryStore}

theorem MemoryStore.read_kept_eq_ok_iff {path : String} (h : fileKey path = path)
    {octets : List UInt8} :
    FileStore.read m path = .ok octets ↔ m.files.get? path = some octets := by
  rw [read_eq_ok_iff, h]

theorem LayerPlace.fileKey_path (place : LayerPlace) : fileKey place.path = place.path := by
  obtain ⟨c, rest, hpath, hc⟩ := path_layerPlace_eq_cons place
  exact fileKey_eq hpath hc

theorem TemplatePlace.fileKey_path (place : TemplatePlace) : fileKey place.path = place.path := by
  obtain ⟨c, rest, hpath, hc⟩ := path_templatePlace_eq_cons place
  exact fileKey_eq hpath hc

theorem listsDirectory_installations_iff {name : String} :
    ListsDirectory m Layout.installations name ↔ m.StoredBelow ["installations", name] := by
  rw [← LayoutDirectory.path_installations]
  exact (leadsTo_layoutDirectory (d := .installations) trivial).listsDirectory_iff

theorem listsDirectory_defaultApps_iff {app : String} :
    ListsDirectory m Layout.defaultApps app ↔ m.StoredBelow ["default", "apps", app] :=
  (leadsTo_layoutDirectory (d := .defaultApps) trivial).listsDirectory_iff

/-- A directory that lists something is there. -/
theorem MemoryStore.has_of_lists {path : String} {entry : DirectoryEntry}
    (h : Lists m path entry) : FileStore.has m path = true := by
  obtain ⟨⟨rest, hholds, _⟩, _⟩ := lists_iff.1 h
  exact has_iff.2 (.inr ⟨rest, hholds⟩)

theorem MemoryStore.has_of_listsDirectory {path name : String}
    (h : ListsDirectory m path name) : FileStore.has m path = true := by
  obtain ⟨entry, hlists, _⟩ := h
  exact has_of_lists hlists

theorem listsDirectory_installationApps_iff {name app : String} (hname : Plain name) :
    FileStore.has m (Layout.installationApps name) = true ∧
        ListsDirectory m (Layout.installationApps name) app ↔
      m.StoredBelow ["installations", name, "apps", app] := by
  have hiff : ListsDirectory m (Layout.installationApps name) app ↔
      m.StoredBelow ["installations", name, "apps", app] :=
    (leadsTo_layoutDirectory (d := .installationApps name) hname).listsDirectory_iff
  rw [← hiff]
  exact ⟨fun h => h.2, fun h => ⟨has_of_listsDirectory h, h⟩⟩

theorem TemplatePlace.isListed_patch_iff {name app : String} {family : Family} :
    (TemplatePlace.patch name app family).IsListed m ↔
      m.StoredBelow ["installations", name, "apps", app] := by
  constructor
  · rintro ⟨hname, happ⟩
    exact (listsDirectory_installationApps_iff hname.plain).1 happ
  · intro h
    have hname : Plain name := h.plain name (by simp)
    have hbelow : m.StoredBelow ["installations", name] :=
      StoredBelow.of_append ["apps", app] h
    exact ⟨listsDirectory_installations_iff.2 hbelow,
      (listsDirectory_installationApps_iff hname).2 h⟩

theorem TemplatePlace.isListed_fragment_iff {name : String} :
    (TemplatePlace.fragment name).IsListed m ↔
      (Plain name ∧ (TemplatePlace.fragment name).path ∈ m.files.keys) ∧
        ¬m.StoredBelow ["include", name] := by
  have hiff : ListsFile m Layout.fragments name ↔
      (Plain name ∧ (TemplatePlace.fragment name).path ∈ m.files.keys) ∧
        ¬m.StoredBelow ["include", name] := by
    rw [← LayoutDirectory.path_fragments]
    exact (leadsTo_layoutDirectory (d := .fragments) trivial).listsFile_iff
  rw [← hiff]
  refine ⟨fun h => h.2, fun h => ⟨?_, h⟩⟩
  obtain ⟨entry, hlists, _⟩ := h
  exact has_of_lists hlists

end Places

namespace Repository

variable {m : MemoryStore} {vocabulary : Template.Vocabulary} {r : Repository}

/-! ## Templates that are loaded -/

/-- The paths of templates are those of the places that are listed and have a file. -/
theorem mem_template_paths_iff_place (h : load m vocabulary = .ok r) {path : String} :
    (∃ t ∈ r.templates, t.path = path) ↔ path ∈ m.files.keys ∧
      ∃ place : TemplatePlace, place.IsListed m ∧ path = place.path := by
  constructor
  · rintro ⟨t, ht, rfl⟩
    obtain ⟨place, hplace⟩ := (placed_of_load h).template_of_mem ht
    obtain ⟨hlisted, hload⟩ := template_of_load h hplace
    obtain ⟨octets, hread, _⟩ := read_of_loadTemplate hload
    have hpath := (eq_of_loadTemplate hload).1
    refine ⟨SortedMap.mem_keys_iff.2 ⟨octets, ?_⟩, place, hlisted, hpath⟩
    rw [hpath]
    exact (read_kept_eq_ok_iff place.fileKey_path).1 hread
  · rintro ⟨hstored, place, hlisted, rfl⟩
    obtain ⟨octets, hoctets⟩ := SortedMap.mem_keys_iff.1 hstored
    obtain ⟨t, ht⟩ := exists_template_of_read h hlisted
      ((read_kept_eq_ok_iff place.fileKey_path).2 hoctets)
    exact ⟨t, mem_of_template? ht, ((placed_of_load h).template place t ht).2⟩

/-- The paths of templates are those of the stored files among the templates of apps, the patches of
installations, and the fragments. -/
theorem mem_template_paths_iff (h : load m vocabulary = .ok r) {path : String} :
    (∃ t ∈ r.templates, t.path = path) ↔ path ∈ m.files.keys ∧
      ((∃ app family, m.StoredBelow ["default", "apps", app] ∧
          path = (LayoutFile.ofDefault app family).path) ∨
        (∃ name app family, m.StoredBelow ["installations", name, "apps", app] ∧
          path = (LayoutFile.ofPatch name app family).path) ∨
        ∃ name, Plain name ∧ ¬m.StoredBelow ["include", name] ∧
          path = Layout.pathOf ["include", name]) := by
  rw [mem_template_paths_iff_place h]
  refine and_congr_right fun hstored => ⟨?_, ?_⟩
  · rintro ⟨place, hlisted, hpath⟩
    cases place with
    | default app family =>
      rw [← TemplatePlace.path_ofDefault] at hpath
      exact .inl ⟨app, family, listsDirectory_defaultApps_iff.1 hlisted, hpath⟩
    | patch name app family =>
      rw [← TemplatePlace.path_ofPatch] at hpath
      exact .inr (.inl ⟨name, app, family, TemplatePlace.isListed_patch_iff.1 hlisted, hpath⟩)
    | fragment name =>
      obtain ⟨⟨hname, _⟩, hnone⟩ := TemplatePlace.isListed_fragment_iff.1 hlisted
      exact .inr (.inr ⟨name, hname, hnone, hpath⟩)
  · rintro (⟨app, family, hbelow, hpath⟩ | ⟨name, app, family, hbelow, hpath⟩ |
      ⟨name, hname, hnone, hpath⟩)
    · rw [TemplatePlace.path_ofDefault] at hpath
      exact ⟨.default app family, listsDirectory_defaultApps_iff.2 hbelow, hpath⟩
    · rw [TemplatePlace.path_ofPatch] at hpath
      exact ⟨.patch name app family, TemplatePlace.isListed_patch_iff.2 hbelow, hpath⟩
    · replace hpath : path = (TemplatePlace.fragment name).path := hpath
      rw [hpath] at hstored
      exact ⟨.fragment name, TemplatePlace.isListed_fragment_iff.2 ⟨⟨hname, hstored⟩, hnone⟩,
        hpath⟩

/-- A template is what the contents of its file read as. -/
theorem read_of_mem_templates (h : load m vocabulary = .ok r) {t : TemplateFile}
    (ht : t ∈ r.templates) : ∃ octets, m.files.get? t.path = some octets ∧
      TemplateFile.read vocabulary t.path t.role octets = .ok t := by
  obtain ⟨place, hplace⟩ := (placed_of_load h).template_of_mem ht
  obtain ⟨_, hload⟩ := template_of_load h hplace
  obtain ⟨octets, hstored, hread⟩ := read_of_loadTemplate hload
  obtain ⟨hpath, hrole⟩ := eq_of_loadTemplate hload
  rw [← hpath, ← hrole] at hread
  rw [← hpath] at hstored
  refine ⟨octets, (read_kept_eq_ok_iff ?_).1 hstored, hread⟩
  rw [hpath, place.fileKey_path]

/-- A fragment is found under its path. -/
theorem get?_fragments_iff (h : load m vocabulary = .ok r) {path : String} {t : TemplateFile} :
    r.fragments.get? path = some t ↔ t ∈ r.templates ∧ t.path = path ∧ t.role = .fragment := by
  have hplaced := placed_of_load h
  constructor
  · intro ht
    obtain ⟨name, rfl⟩ := hplaced.fragment path t ht
    have hplace : r.template? (.fragment name) = some t := ht
    obtain ⟨_, hload⟩ := template_of_load h hplace
    exact ⟨mem_of_fragment ht, eq_of_loadTemplate hload⟩
  · rintro ⟨ht, rfl, hrole⟩
    obtain ⟨place, hplace⟩ := hplaced.template_of_mem ht
    obtain ⟨_, hload⟩ := template_of_load h hplace
    obtain ⟨hpath, hplaceRole⟩ := eq_of_loadTemplate hload
    rw [hplaceRole] at hrole
    cases place with
    | default app family => cases hrole
    | patch name app family => cases hrole
    | fragment name => exact hpath ▸ hplace

/-! ## Names that are loaded -/

theorem mem_keys_patches_iff_storedBelow (h : load m vocabulary = .ok r)
    {i : String × Installation} (hi : i ∈ r.installations.entries) {app : String} :
    app ∈ i.2.patches.keys ↔ m.StoredBelow ["installations", i.1, "apps", app] := by
  have hget := SortedMap.get?_eq_some_iff.2 hi
  have hlisted := (mem_keys_installations_iff h).1 (SortedMap.mem_keys_iff.2 ⟨i.2, hget⟩)
  rw [mem_keys_patches_iff h hget, listsDirectory_installationApps_iff hlisted.plain]

theorem mem_appsOf_iff (h : load m vocabulary = .ok r) {i : String × Installation}
    (hi : i ∈ r.installations.entries) {app : String} :
    app ∈ r.appsOf i.2 ↔ m.StoredBelow ["default", "apps", app] ∨
      m.StoredBelow ["installations", i.1, "apps", app] := by
  rw [appsOf, mem_distinct_iff, List.mem_append, mem_keys_defaults_iff h,
    listsDirectory_defaultApps_iff, mem_keys_patches_iff_storedBelow h hi]

theorem mem_apps_iff (h : load m vocabulary = .ok r) {app : String} :
    app ∈ r.apps ↔ m.StoredBelow ["default", "apps", app] ∨
      ∃ name, m.StoredBelow ["installations", name, "apps", app] := by
  rw [apps, mem_distinct_iff, List.mem_append, mem_keys_defaults_iff h,
    listsDirectory_defaultApps_iff, List.mem_flatMap]
  refine or_congr_right ⟨?_, ?_⟩
  · rintro ⟨i, hi, happ⟩
    exact ⟨i.1, (mem_keys_patches_iff_storedBelow h hi).1 happ⟩
  · rintro ⟨name, hbelow⟩
    have hname : name ∈ r.installations.keys := (mem_keys_installations_iff h).2
      (listsDirectory_installations_iff.2 (StoredBelow.of_append ["apps", app] hbelow))
    obtain ⟨i, hi⟩ := SortedMap.mem_keys_iff.1 hname
    have hi := SortedMap.get?_eq_some_iff.1 hi
    exact ⟨(name, i), hi, (mem_keys_patches_iff_storedBelow h hi).2 hbelow⟩

/-! ## Layers that are loaded -/

/-- The paths of all layers, in the order of the installations. -/
theorem Placed.layer_paths (h : Placed r) :
    r.layers.map (fun l => l.path) = LayoutFile.config.path ::
      r.installations.keys.flatMap fun name =>
        [(LayoutFile.configPatch name).path, (LayoutFile.secret name).path] := by
  unfold layers SortedMap.keys
  rw [List.map_cons, List.map_flatMap, List.flatMap_map]
  refine List.cons_eq_cons.2 ⟨(h.layer .base r.base rfl).2, List.flatMap_congr fun i hi => ?_⟩
  have hoverride := (h.layer _ _ (layer?_override hi)).2
  have hsecret := (h.layer _ _ (layer?_secret hi)).2
  rw [List.map_cons, List.map_singleton, hoverride, hsecret]
  rfl

/-- A layer is what the contents of its file read as. -/
theorem read_of_mem_layers (h : load m vocabulary = .ok r) {l : Layer} (hl : l ∈ r.layers) :
    ∃ octets, m.files.get? l.path = some octets ∧ Layer.read l.path l.role octets = .ok l := by
  obtain ⟨place, hplace⟩ := Placed.layer_of_mem hl
  obtain ⟨_, hload⟩ := layer_of_load h hplace
  obtain ⟨octets, hstored, hread⟩ := read_of_loadLayer hload
  obtain ⟨hpath, hrole⟩ := eq_of_loadLayer hload
  rw [← hpath, ← hrole] at hread
  rw [← hpath] at hstored
  refine ⟨octets, (read_kept_eq_ok_iff ?_).1 hstored, hread⟩
  rw [hpath, place.path_file, place.fileKey_path]

/-! ## What is found at places -/

theorem Placed.layer?_iff (h : Placed r) {place : LayerPlace} {l : Layer} :
    r.layer? place = some l ↔ place.NamesPlain ∧ l ∈ r.layers ∧ l.path = place.path := by
  constructor
  · intro hl
    obtain ⟨hplain, hpath⟩ := h.layer place l hl
    exact ⟨hplain, mem_of_layer? hl, hpath⟩
  · rintro ⟨hplain, hl, hpath⟩
    obtain ⟨other, hother⟩ := layer_of_mem hl
    obtain ⟨hotherPlain, hotherPath⟩ := h.layer other l hother
    rwa [LayerPlace.path_inj hplain hotherPlain (hpath.symm.trans hotherPath)]

theorem Placed.template?_iff (h : Placed r) {place : TemplatePlace} {t : TemplateFile} :
    r.template? place = some t ↔
      place.NamesPlain ∧ t ∈ r.templates ∧ t.path = place.path := by
  constructor
  · intro ht
    obtain ⟨hplain, hpath⟩ := h.template place t ht
    exact ⟨hplain, mem_of_template? ht, hpath⟩
  · rintro ⟨hplain, ht, hpath⟩
    obtain ⟨other, hother⟩ := h.template_of_mem ht
    obtain ⟨hotherPlain, hotherPath⟩ := h.template other t hother
    rwa [TemplatePlace.path_inj hplain hotherPlain (hpath.symm.trans hotherPath)]

/-! ## The inventory of a repository -/

/-- A repository holds the files of the layout that are stored, and no others. -/
structure Inventory (m : MemoryStore) (vocabulary : Template.Vocabulary) (r : Repository) :
    Prop where
  /-- The installations are the directories in that of the installations. -/
  installations : r.installations.keys.Pairwise (· < ·) ∧
    ∀ name, name ∈ r.installations.keys ↔ m.StoredBelow ["installations", name]
  /-- The layers are the base, then two of each installation, in ascending order. -/
  layers : r.layers.map (fun l => l.path) = LayoutFile.config.path ::
    r.installations.keys.flatMap fun name =>
      [(LayoutFile.configPatch name).path, (LayoutFile.secret name).path]
  /-- The templates are the stored ones of the apps in both directories, and the stored fragments. -/
  templates : ∀ path, (∃ t ∈ r.templates, t.path = path) ↔ path ∈ m.files.keys ∧
    ((∃ app family, m.StoredBelow ["default", "apps", app] ∧
        path = (LayoutFile.ofDefault app family).path) ∨
      (∃ name app family, m.StoredBelow ["installations", name, "apps", app] ∧
        path = (LayoutFile.ofPatch name app family).path) ∨
      ∃ name, Plain name ∧ ¬m.StoredBelow ["include", name] ∧
        path = Layout.pathOf ["include", name])
  /-- No path is that of two layers or of two templates. -/
  once : (r.layers.map fun l => l.path).Nodup ∧ (r.templates.map fun t => t.path).Nodup
  /-- The apps are the directories of apps, those in the directories of installations included. -/
  apps : r.apps.Pairwise (· < ·) ∧ ∀ app, app ∈ r.apps ↔
    m.StoredBelow ["default", "apps", app] ∨
      ∃ name, m.StoredBelow ["installations", name, "apps", app]
  /-- The apps of an installation are those of all, and those in its own directory. -/
  appsOf : ∀ i ∈ r.installations.entries, (r.appsOf i.2).Pairwise (· < ·) ∧
    ∀ app, app ∈ r.appsOf i.2 ↔ m.StoredBelow ["default", "apps", app] ∨
      m.StoredBelow ["installations", i.1, "apps", app]
  /-- A layer is found under the name of its installation. -/
  layer? : ∀ place l, r.layer? place = some l ↔
    place.NamesPlain ∧ l ∈ r.layers ∧ l.path = place.path
  /-- A template is found under the names of its installation and its app. -/
  template? : ∀ place t, r.template? place = some t ↔
    place.NamesPlain ∧ t ∈ r.templates ∧ t.path = place.path
  /-- A fragment is found under its path. -/
  fragment : ∀ path t, r.fragments.get? path = some t ↔
    t ∈ r.templates ∧ t.path = path ∧ t.role = .fragment
  /-- A layer is what the contents of its file read as. -/
  readLayer : ∀ l ∈ r.layers, ∃ octets, m.files.get? l.path = some octets ∧
    Layer.read l.path l.role octets = .ok l
  /-- A template is what the contents of its file read as. -/
  readTemplate : ∀ t ∈ r.templates, ∃ octets, m.files.get? t.path = some octets ∧
    TemplateFile.read vocabulary t.path t.role octets = .ok t

/-- Whatever files are stored, a repository that is loaded from them holds every file of the layout
once and finds it under the names in its path. -/
theorem every_file_of_the_layout_is_loaded_once_and_found_under_its_names {s : Survey}
    (h : Survey.load m vocabulary = .ok s) : Inventory m vocabulary s.repository := by
  have hload := Survey.repository_of_load h
  have hplaced := placed_of_load hload
  refine
    { installations := ⟨SortedMap.pairwise_keys _, fun name => ?_⟩
      layers := ?_
      templates := fun path => ?_
      once := ⟨?_, hplaced.nodup_template_paths⟩
      apps := ⟨SortedMap.pairwise_keys _, fun app => mem_apps_iff hload⟩
      appsOf := fun i hi => ⟨SortedMap.pairwise_keys _, fun app => mem_appsOf_iff hload hi⟩
      layer? := fun place l => hplaced.layer?_iff
      template? := fun place t => hplaced.template?_iff
      fragment := fun path t => ?_
      readLayer := fun l hl => ?_
      readTemplate := fun t ht => ?_ }
  · rw [mem_keys_installations_iff hload, listsDirectory_installations_iff]
  · exact hplaced.layer_paths
  · exact mem_template_paths_iff hload
  · exact hplaced.nodup_layer_paths
  · exact get?_fragments_iff hload
  · exact read_of_mem_layers hload hl
  · exact read_of_mem_templates hload ht

/-- The small repository holds its three kinds of files, and finds the template of the app. -/
theorem the_small_store_is_loaded_as_a_whole :
    ∃ s, Survey.load Survey.smallStore .standard = .ok s ∧
      Inventory Survey.smallStore .standard s.repository ∧
      s.repository.layers.map (fun l => l.path) =
        ["default/config.yaml", "installations/gauss/config.yaml.patch",
          "installations/gauss/secret.yaml", "installations/kvm/config.yaml.patch",
          "installations/kvm/secret.yaml"] ∧
      ∃ t, s.repository.template? (.default "foo" .config) = some t ∧ t ∈ s.repository.templates := by
  have hall := every_file_of_the_layout_is_loaded_once_and_found_under_its_names
    Survey.load_smallStore
  refine ⟨_, Survey.load_smallStore, hall, ?_, ?_⟩
  · rw [hall.layers]
    decide
  · have hfound : (Survey.smallRepository.template? (.default "foo" .config)).isSome = true := by
      decide
    obtain ⟨t, ht⟩ := Option.isSome_iff_exists.1 hfound
    exact ⟨t, ht, ((hall.template? _ t).1 ht).2.1⟩

end Repository

end LayerLint
