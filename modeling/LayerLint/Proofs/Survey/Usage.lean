-- Who uses a value, what stands over it, and where a reference is missing. A survey looks templates
-- and layers up by their paths; since no two files have one path, a template uses a leaf of a layer
-- exactly if it takes it from there, and a reference is missing exactly where it is lacking.
import LayerLint.FileStore.Memory
import LayerLint.Proofs.Repository.Encounter
import LayerLint.Proofs.Repository.Load
import LayerLint.Repository.Survey

namespace LayerLint.Survey

open Repository

/-! ## Surveys that are loaded -/

section Loaded

variable {σ : Type} [FileStore σ] {store : σ} {vocabulary : Template.Vocabulary} {s : Survey}

theorem load_eq_ok_iff :
    load store vocabulary = .ok s ↔
      Repository.load store vocabulary = .ok s.repository ∧ s = ofRepository s.repository := by
  unfold load
  constructor
  · intro h
    cases hr : Repository.load store vocabulary with
    | error e =>
      rw [hr] at h
      cases h
    | ok r =>
      rw [hr] at h
      cases h
      exact ⟨rfl, rfl⟩
  · rintro ⟨hr, hs⟩
    rw [hr, hs]
    rfl

theorem repository_of_load (h : load store vocabulary = .ok s) :
    Repository.load store vocabulary = .ok s.repository :=
  (load_eq_ok_iff.1 h).1

/-- A survey that is loaded is that of a repository whose files stand at their places. -/
theorem placed_of_load (h : load store vocabulary = .ok s) :
    s.repository.Placed ∧ s = ofRepository s.repository := by
  obtain ⟨hr, hs⟩ := load_eq_ok_iff.1 h
  exact ⟨Repository.placed_of_load hr, hs⟩

end Loaded

/-! ## Users -/

variable {r : Repository}

theorem takes_iff {path leaf : String} {e : Encounter} :
    takes path leaf e = true ↔
      ∃ layer leaves, e.outcome = .given layer leaves ∧ layer.path = path ∧ leaf ∈ leaves := by
  unfold takes
  split
  · rename_i layer leaves houtcome
    rw [Bool.and_eq_true, beq_iff_eq, List.contains_iff_mem]
    constructor
    · rintro ⟨hpath, hleaf⟩
      exact ⟨layer, leaves, houtcome, hpath, hleaf⟩
    · rintro ⟨_, _, heq, hpath, hleaf⟩
      cases houtcome.symm.trans heq
      exact ⟨hpath, hleaf⟩
  · rename_i houtcome
    simp [houtcome]
  · rename_i houtcome
    simp [houtcome]

theorem mem_usedBy_iff (h : Placed r) {layer : Layer} (hl : layer ∈ r.layers) {leaf : String}
    {t : TemplateFile} : t ∈ (ofRepository r).usedBy layer leaf ↔ r.Takes t layer leaf := by
  rw [takes_iff_encounter h]
  unfold usedBy
  simp only [List.mem_filter, List.contains_iff_mem, List.mem_map, takes_iff]
  constructor
  · rintro ⟨ht, e, ⟨he, other, leaves, houtcome, hpath, hleaf⟩, hsource⟩
    obtain ⟨i, hi, _, hhas, _, _, patched, _, heq⟩ := (mem_encounters_iff h).1 he
    obtain ⟨_, hgives, _⟩ := outcomeOf_eq_given_iff.1 (heq.symm.trans houtcome)
    cases h.layer_eq (mem_layers_of_layersOf hi hgives.mem) hl hpath
    exact ⟨e, he, h.template_eq (mem_of_hasTemplate hi hhas) ht hsource, leaves, houtcome, hleaf⟩
  · rintro ⟨e, he, rfl, leaves, houtcome, hleaf⟩
    obtain ⟨i, hi, _, hhas, _⟩ := (mem_encounters_iff h).1 he
    exact ⟨mem_of_hasTemplate hi hhas, e, ⟨he, layer, leaves, houtcome, rfl, hleaf⟩, rfl⟩

theorem usedBy_eq_nil_iff (h : Placed r) {layer : Layer} (hl : layer ∈ r.layers) {leaf : String} :
    (ofRepository r).usedBy layer leaf = [] ↔ ∀ t, ¬r.Takes t layer leaf := by
  rw [List.eq_nil_iff_forall_not_mem]
  exact forall_congr' fun t => not_congr (mem_usedBy_iff h hl)

/-! ## Apps behind users -/

theorem mem_consumers_iff {templates : List TemplateFile} {app : String} :
    app ∈ consumers templates ↔ ∃ t ∈ templates, t.app = some app := by
  rw [consumers, mem_distinct_iff, List.mem_filterMap]

/-- The template that an app has is a template of this app. -/
theorem app_of_hasTemplate (h : Placed r) {name : String} {i : Installation}
    (hi : (name, i) ∈ r.installations.entries) {app : String} {family : Family} {t : TemplateFile}
    (ht : r.HasTemplate i app family t) : t.app = some app := by
  have happ : ∀ place : TemplatePlace, r.template? place = some t → place.app? = some app →
      t.app = some app := by
    intro place hplace heq
    obtain ⟨hplain, hpath⟩ := h.template place t hplace
    unfold TemplateFile.app
    rw [hpath, TemplatePlace.identify_path hplain, heq]
  rcases ht with ht | ht
  · exact happ (.patch name app family) (template?_patch hi ht) rfl
  · exact happ (.default app family) ht rfl

/-- A template that takes a value is a template of some app. -/
theorem consumers_ne_nil_of_takes (h : Placed r) {layer : Layer} {leaf : String}
    {t : TemplateFile} (ht : r.Takes t layer leaf) {templates : List TemplateFile}
    (hmem : t ∈ templates) : consumers templates ≠ [] := by
  obtain ⟨i, hi, app, _, _, hhas, _⟩ := ht
  exact List.ne_nil_of_mem (mem_consumers_iff.2 ⟨t, hmem, app_of_hasTemplate h hi hhas⟩)

/-- There is an app behind every template that uses a value. -/
theorem consumers_eq_nil_iff (h : Placed r) {layer : Layer} (hl : layer ∈ r.layers)
    {leaf : String} : consumers ((ofRepository r).usedBy layer leaf) = [] ↔
      (ofRepository r).usedBy layer leaf = [] := by
  constructor
  · intro hnil
    refine List.eq_nil_iff_forall_not_mem.2 fun t ht => ?_
    exact consumers_ne_nil_of_takes h ((mem_usedBy_iff h hl).1 ht) ht hnil
  · intro hnil
    rw [hnil]
    rfl

/-! ## Layers that stand over a leaf -/

/-- Among the leaves that an override shares with the base, a leaf stands once or not at all. -/
theorem above_of_shared (base above : Layer) (leaf : String) :
    ((((above.values.keys.filter base.values.contains).map fun key =>
        (⟨base, key, above⟩ : Overshadow)).filter
          fun o => o.below.path == base.path && o.leaf == leaf).map fun o => o.above) =
      if base.values.contains leaf && above.values.contains leaf then [above] else [] := by
  have hnodup : (above.values.keys.filter base.values.contains).Nodup :=
    above.values.nodup_keys.filter _
  have hleaf : (above.values.keys.filter base.values.contains).filter (fun key => key == leaf) =
      if base.values.contains leaf && above.values.contains leaf then [leaf] else [] := by
    rw [List.filter_beq, hnodup.count]
    simp only [List.mem_filter, ← SortedMap.contains_iff_mem_keys, and_comm, Bool.and_eq_true]
    split
    · rfl
    · rfl
  simp only [List.filter_map, List.map_map, Function.comp_def, beq_self_eq_true, Bool.true_and,
    hleaf]
  split
  · rfl
  · rfl

/-- Over the base stand the overrides that have the leaf as well, each of them once. -/
theorem layersOver_base (s : Survey) (leaf : String) :
    s.layersOver s.repository.base leaf =
      (s.repository.installations.entries.map fun i => i.2.override).filter fun layer =>
        s.repository.base.values.contains leaf && layer.values.contains leaf := by
  unfold layersOver overshadows
  induction s.repository.installations.entries with
  | nil => rfl
  | cons i rest ih =>
    rw [List.flatMap_cons, List.filter_append, List.map_append, ih, above_of_shared,
      List.map_cons, List.filter_cons]
    split
    · rfl
    · rfl

theorem mem_layersOver_base_iff {s : Survey} {leaf : String} {layer : Layer} :
    layer ∈ s.layersOver s.repository.base leaf ↔
      (∃ i ∈ s.repository.installations.entries, i.2.override = layer) ∧
        leaf ∈ s.repository.base.values.keys ∧ leaf ∈ layer.values.keys := by
  rw [layersOver_base]
  simp only [List.mem_filter, List.mem_map, Bool.and_eq_true, SortedMap.contains_iff_mem_keys]

/-- The base and what stands over it are layers of the repository. -/
theorem mem_layers_of_mem_stack {layer : Layer} {leaf : String}
    (hl : layer ∈ r.base :: (ofRepository r).layersOver r.base leaf) : layer ∈ r.layers := by
  rcases List.mem_cons.1 hl with rfl | hl
  · exact List.mem_cons_self
  · obtain ⟨⟨i, hi, rfl⟩, _⟩ := mem_layersOver_base_iff.1 hl
    exact mem_layers_of_override hi

/-! ## Installations that a reference is missing in -/

theorem misses_iff {path reference : String} {e : Encounter} :
    misses path reference e = true ↔
      e.outcome = .missing ∧ e.owner.path = path ∧ e.reference = reference := by
  unfold misses
  split
  · rename_i houtcome
    simp [houtcome]
  · rename_i houtcome
    simp [houtcome]
  · rename_i houtcome
    simp [houtcome]

theorem mem_missingIn_iff (h : Placed r) {owner : TemplateFile} (ho : owner ∈ r.templates)
    {reference : String} (hreference : reference ∈ owner.reads.keys) {name : String} :
    name ∈ (ofRepository r).missingIn owner reference ↔ r.Lacks owner reference name := by
  rw [lacks_iff_encounter h hreference]
  unfold missingIn
  simp only [List.mem_filter, List.contains_iff_mem, List.mem_map, misses_iff]
  constructor
  · rintro ⟨_, e, ⟨he, houtcome, hpath, hname⟩, hinstallation⟩
    obtain ⟨i, hi, _, hhas, howner, _⟩ := (mem_encounters_iff h).1 he
    have hmem : e.owner ∈ r.templates :=
      mem_templates_of_bringsIn (mem_of_hasTemplate hi hhas) howner
    exact ⟨e, he, hinstallation, h.template_eq hmem ho hpath, hname, houtcome⟩
  · rintro ⟨e, he, rfl, rfl, rfl, houtcome⟩
    obtain ⟨i, hi, _⟩ := (mem_encounters_iff h).1 he
    refine ⟨SortedMap.mem_keys_iff.2 ⟨i, SortedMap.get?_eq_some_iff.2 hi⟩, e, ?_, rfl⟩
    exact ⟨he, houtcome, rfl, rfl⟩

/-- The installations that a reference is missing in stand in ascending order. -/
theorem pairwise_missingIn (s : Survey) (t : TemplateFile) (reference : String) :
    (s.missingIn t reference).Pairwise (· < ·) :=
  s.repository.installations.pairwise_keys.filter _

/-! ## A small repository -/

/-- Two installations of an app that reads a value, a whole registry and a value that is not
there. -/
def smallStore : MemoryStore :=
  MemoryStore.ofFiles
    [("default/config.yaml", "a: 1\nb: 2\nregistry:\n  domain: d\n  mirror: m\n".toUTF8.toList),
     ("default/apps/foo/configmap-values.yaml.template",
      ("a: \x7b\x7b .a \x7d\x7d\nr: \x7b\x7b .registry \x7d\x7d\n" ++
        "g: \x7b\x7b .gone \x7d\x7d\n").toUTF8.toList),
     ("installations/gauss/config.yaml.patch", "a: 1\nb: 99\n".toUTF8.toList),
     ("installations/gauss/secret.yaml", "old: o\n".toUTF8.toList),
     ("installations/kvm/config.yaml.patch", "\x7b\x7d\n".toUTF8.toList),
     ("installations/kvm/secret.yaml", "".toUTF8.toList)]

/-- The small repository, loaded. -/
def smallRepository : Repository where
  base := ⟨"default/config.yaml", .base, SortedMap.ofList
    [("a", .integer 1), ("b", .integer 2), ("registry.domain", .text "d"),
     ("registry.mirror", .text "m")]⟩
  installations := SortedMap.ofList
    [("gauss",
      ⟨⟨"installations/gauss/config.yaml.patch", .override,
         SortedMap.ofList [("a", .integer 1), ("b", .integer 99)]⟩,
       ⟨"installations/gauss/secret.yaml", .secret, SortedMap.ofList [("old", .text "o")]⟩,
       SortedMap.empty⟩),
     ("kvm",
      ⟨⟨"installations/kvm/config.yaml.patch", .override, SortedMap.empty⟩,
       ⟨"installations/kvm/secret.yaml", .secret, SortedMap.empty⟩, SortedMap.empty⟩)]
  defaults := SortedMap.ofList
    [("foo",
      ⟨some ⟨"default/apps/foo/configmap-values.yaml.template", .default .config,
         SortedMap.ofList [("a", 1), ("gone", 1), ("registry", 1)], ["a", "g", "r"], []⟩, none⟩)]
  fragments := SortedMap.empty

theorem load_smallStore : load smallStore .standard = .ok (ofRepository smallRepository) := by
  have hload : (Repository.load smallStore .standard).toOption = some smallRepository := by
    decide +kernel
  refine load_eq_ok_iff.2 ⟨?_, rfl⟩
  cases hr : Repository.load smallStore .standard with
  | error e =>
    rw [hr] at hload
    cases hload
  | ok r =>
    rw [hr] at hload
    exact congrArg _ (Option.some.inj hload)

/-- What is found of a survey that is loaded. -/
theorem exists_of_load_map {α β : Type} {x : Except α Survey} {f : Survey → β} {b : β}
    (h : x.toOption.map f = some b) : ∃ s, x = .ok s ∧ f s = b := by
  cases x with
  | error e => cases h
  | ok s => exact ⟨s, rfl, Option.some.inj h⟩

/-- Who uses the mirror of the small repository, and where the value that is gone is missing. -/
theorem survey_of_smallStore : (load smallStore .standard).toOption.map
    (fun s => ((s.usedBy s.repository.base "registry.mirror").map fun t => t.path,
      s.repository.templates.map fun t => (t.path, t.reads.keys, s.missingIn t "gone"))) =
    some (["default/apps/foo/configmap-values.yaml.template"],
      [("default/apps/foo/configmap-values.yaml.template",
        ["a", "gone", "registry"], ["gauss", "kvm"])]) := by
  rw [load_smallStore]
  decide +kernel

/-- The template of the app in the small repository reads a value that is in neither
installation. -/
theorem gone_in_smallStore {s : Survey} (h : load smallStore .standard = .ok s) :
    ∃ t ∈ s.repository.templates, t.path = "default/apps/foo/configmap-values.yaml.template" ∧
      "gone" ∈ t.reads.keys ∧ s.missingIn t "gone" = ["gauss", "kvm"] := by
  obtain ⟨_, hload, hs⟩ := exists_of_load_map survey_of_smallStore
  cases h.symm.trans hload
  obtain ⟨_, htemplates⟩ := Prod.mk.inj hs
  obtain ⟨t, ht, hfacts⟩ := List.mem_map.1 (htemplates ▸ List.mem_singleton_self _)
  simp only [Prod.mk.injEq] at hfacts
  obtain ⟨hpath, hkeys, hmissing⟩ := hfacts
  refine ⟨t, ht, hpath, ?_, hmissing⟩
  rw [hkeys]
  decide

/-! ## Exact users -/

/-- A value is used by the templates that take it, and by no others: by those with a reference,
their own or one of a fragment that they bring in, for which the layer of the value is the first
that has leaves, the value among them. -/
theorem a_value_is_used_by_exactly_the_templates_that_take_it {σ : Type} [FileStore σ]
    {store : σ} {vocabulary : Template.Vocabulary} {s : Survey}
    (h : load store vocabulary = .ok s) {layer : Layer} (hl : layer ∈ s.repository.layers)
    (leaf : String) (t : TemplateFile) :
    t ∈ s.usedBy layer leaf ↔
      ∃ i ∈ s.repository.installations.entries, ∃ app ∈ s.repository.apps, ∃ family,
        s.repository.HasTemplate i.2 app family t ∧
        ∃ owner, s.repository.BringsIn t owner ∧ ∃ reference ∈ owner.reads.keys,
          GivesFirst (s.repository.layersOf i.2 family) reference layer ∧
          leaf ∈ layer.resolve reference ∧
          ¬(family = .secret ∧ s.repository.LeftToPatch i.2 app family t reference) := by
  obtain ⟨hplaced, hs⟩ := placed_of_load h
  rw [hs]
  exact mem_usedBy_iff hplaced hl

/-- The mirror of the registry is used by the template of the app, which reads the whole
registry. -/
theorem the_mirror_of_the_small_store_is_taken_by_the_app_template :
    ∃ s, load smallStore .standard = .ok s ∧ s.repository.base ∈ s.repository.layers ∧
      ∃ t ∈ s.usedBy s.repository.base "registry.mirror",
        t.path = "default/apps/foo/configmap-values.yaml.template" ∧
        ∃ i ∈ s.repository.installations.entries, ∃ app ∈ s.repository.apps, ∃ family,
          s.repository.HasTemplate i.2 app family t ∧
          ∃ owner, s.repository.BringsIn t owner ∧ ∃ reference ∈ owner.reads.keys,
            GivesFirst (s.repository.layersOf i.2 family) reference s.repository.base ∧
            "registry.mirror" ∈ s.repository.base.resolve reference ∧
            ¬(family = .secret ∧ s.repository.LeftToPatch i.2 app family t reference) := by
  obtain ⟨s, hload, hs⟩ := exists_of_load_map survey_of_smallStore
  obtain ⟨husers, _⟩ := Prod.mk.inj hs
  have hbase : s.repository.base ∈ s.repository.layers := List.mem_cons_self
  obtain ⟨t, ht, hpath⟩ := List.mem_map.1 (husers ▸ List.mem_singleton_self _)
  refine ⟨s, hload, hbase, t, ht, hpath, ?_⟩
  exact (a_value_is_used_by_exactly_the_templates_that_take_it hload hbase _ t).1 ht

end LayerLint.Survey
