-- The advice to remove values is safe to follow, as a whole and in every part. What is missing
-- without the removed entries was missing with them: a layer that gave a reference its leaves still
-- has one of them, or the base has the leaf that the layer stood over.
import LayerLint.Proofs.Lint.Advice
import LayerLint.Proofs.Repository.Resolve
import Mathlib.Data.List.Sort

namespace LayerLint

/-! ## Taking entries out -/

/-- A layer without some entries, which are given by file and path. -/
def Layer.without (entries : List (String × String)) (l : Layer) : Layer :=
  { l with values := l.values.filter fun path _ => !entries.contains (l.path, path) }

def Installation.without (entries : List (String × String)) (i : Installation) : Installation :=
  { i with
    override := i.override.without entries
    secret := i.secret.without entries }

/-- A repository without some entries of its layers. -/
def Repository.without (entries : List (String × String)) (r : Repository) : Repository :=
  { r with
    base := r.base.without entries
    installations := r.installations.map fun _ i => i.without entries }

variable {entries : List (String × String)}

namespace Layer

theorem mem_keys_without_iff {l : Layer} {leaf : String} :
    leaf ∈ (l.without entries).values.keys ↔ leaf ∈ l.values.keys ∧ (l.path, leaf) ∉ entries := by
  unfold without
  rw [SortedMap.mem_keys_filter_iff]
  simp

/-- A layer with fewer entries has leaves for no more references. -/
theorem resolve_ne_nil_of_without {l : Layer} {reference : String}
    (h : (l.without entries).resolve reference ≠ []) : l.resolve reference ≠ [] := by
  obtain ⟨leaf, hkey, hleaf⟩ := resolve_ne_nil_iff.1 h
  exact resolve_ne_nil_iff.2 ⟨leaf, (mem_keys_without_iff.1 hkey).1, hleaf⟩

/-- A layer that keeps a leaf of a reference has leaves for the reference. -/
theorem resolve_without_ne_nil {l : Layer} {reference leaf : String} (hkey : leaf ∈ l.values.keys)
    (hleaf : leaf = reference ∨ ValuePath.isDescendant leaf reference = true)
    (hkept : (l.path, leaf) ∉ entries) : (l.without entries).resolve reference ≠ [] :=
  resolve_ne_nil_iff.2 ⟨leaf, mem_keys_without_iff.2 ⟨hkey, hkept⟩, hleaf⟩

end Layer

namespace Repository

variable {r : Repository}

theorem mem_installations_without_iff {name : String} {j : Installation} :
    (name, j) ∈ (r.without entries).installations.entries ↔
      ∃ i, (name, i) ∈ r.installations.entries ∧ j = i.without entries := by
  unfold without
  simp only [SortedMap.entries_map, List.mem_map, Prod.mk.injEq]
  constructor
  · rintro ⟨⟨_, i⟩, hi, rfl, rfl⟩
    exact ⟨i, hi, rfl⟩
  · rintro ⟨i, hi, rfl⟩
    exact ⟨(name, i), hi, rfl, rfl⟩

theorem templates_without : (r.without entries).templates = r.templates := by
  simp [templates, without, Installation.without, List.flatMap_map]

theorem apps_without : (r.without entries).apps = r.apps := by
  simp [apps, without, Installation.without, List.flatMap_map]

theorem bringsIn_without_iff {t o : TemplateFile} :
    (r.without entries).BringsIn t o ↔ r.BringsIn t o := by
  have hfragments : (r.without entries).fragments = r.fragments := rfl
  exact ⟨BringsIn.of_fragments_eq hfragments, BringsIn.of_fragments_eq hfragments.symm⟩

theorem layersOf_without {i : Installation} {family : Family} :
    (r.without entries).layersOf (i.without entries) family =
      (r.layersOf i family).map (·.without entries) := by
  cases family <;> rfl

/-- Taking entries out of layers moves no file. -/
theorem placed_without (h : Placed r) : Placed (r.without entries) := by
  refine ⟨fun place t ht => ?_, fun place l hl => ?_, h.fragment⟩
  · apply h.template place t
    cases place with
    | default app family => exact ht
    | patch name app family =>
      obtain ⟨j, hj, ht⟩ := Option.bind_eq_some_iff.1 ht
      obtain ⟨i, hi, rfl⟩ := mem_installations_without_iff.1 (SortedMap.get?_eq_some_iff.1 hj)
      exact Option.bind_eq_some_iff.2 ⟨i, SortedMap.get?_eq_some_iff.2 hi, ht⟩
    | fragment name => exact ht
  · cases place with
    | base =>
      cases hl
      exact h.layer .base r.base rfl
    | override name =>
      obtain ⟨j, hj, rfl⟩ := Option.map_eq_some_iff.1 hl
      obtain ⟨i, hi, rfl⟩ := mem_installations_without_iff.1 (SortedMap.get?_eq_some_iff.1 hj)
      exact h.layer (.override name) i.override (layer?_override hi)
    | secret name =>
      obtain ⟨j, hj, rfl⟩ := Option.map_eq_some_iff.1 hl
      obtain ⟨i, hi, rfl⟩ := mem_installations_without_iff.1 (SortedMap.get?_eq_some_iff.1 hj)
      exact h.layer (.secret name) i.secret (layer?_secret hi)

/-! ## What is lacking without the entries -/

variable {threshold : Binary64}

/-- What gives a template its leaves for a reference is still there without entries that are
advised to be removed. -/
theorem exists_resolve_without_ne_nil (h : Placed r)
    (hadvised : ∀ e ∈ entries, e ∈ Rule.advised threshold (Survey.ofRepository r)) {name : String}
    {i : Installation} (hi : (name, i) ∈ r.installations.entries) {family : Family}
    {reference : String} {first : Layer}
    (hgives : GivesFirst (r.layersOf i family) reference first)
    (htakes : ∀ leaf ∈ first.resolve reference, ∃ t, r.Takes t first leaf) :
    ∃ l ∈ r.layersOf i family, (l.without entries).resolve reference ≠ [] := by
  have hfirst : first ∈ r.layersOf i family := hgives.mem
  obtain ⟨leaf, hleaf⟩ := List.exists_mem_of_ne_nil _ hgives.resolve_ne_nil
  obtain ⟨t, ht⟩ := htakes leaf hleaf
  obtain ⟨hkey, hat⟩ := Layer.mem_resolve_iff.1 hleaf
  have hat : leaf = reference ∨ ValuePath.isDescendant leaf reference = true :=
    hat.imp_right And.right
  by_cases hremoved : (first.path, leaf) ∈ entries
  · -- The entry is taken, so it can only be removed because it stands over one of the base, and
    -- that one stays, for what stands over it is taken.
    obtain ⟨place, hplace⟩ := Placed.layer_of_mem (mem_layers_of_layersOf hi hfirst)
    rcases Rule.overshadows_or_untaken_of_mem_advised h hplace (hadvised _ hremoved) with
      hover | ⟨huntaken, _⟩
    · obtain ⟨⟨j, hj, hoverride⟩, hbase, _⟩ := Survey.mem_layersOver_base_iff.1 hover
      have hkept : (r.base.path, leaf) ∉ entries := fun hmem =>
        Rule.not_mem_advised_of_takes_above h hover ht (hadvised _ hmem)
      refine ⟨r.base, ?_, Layer.resolve_without_ne_nil hbase hat hkept⟩
      cases family with
      | config => exact List.mem_cons_of_mem _ List.mem_cons_self
      | secret =>
        cases List.mem_singleton.1 hfirst
        have hother : r.layer? (.override j.1) = some i.secret := hoverride ▸ layer?_override hj
        cases h.layerPlace_eq (layer?_secret hi) hother
    · exact absurd ht (huntaken t)
  · exact ⟨first, hfirst, Layer.resolve_without_ne_nil hkey hat hremoved⟩

theorem lacks_without_iff (h : Placed r)
    (hadvised : ∀ e ∈ entries, e ∈ Rule.advised threshold (Survey.ofRepository r))
    {owner : TemplateFile} {reference : String} (hreference : reference ∈ owner.reads.keys)
    {name : String} :
    (r.without entries).Lacks owner reference name ↔ r.Lacks owner reference name := by
  constructor
  · rintro ⟨j, hj, app, happ, family, t, ht, howner, hnone, hleft⟩
    obtain ⟨i, hi, rfl⟩ := mem_installations_without_iff.1 hj
    rw [bringsIn_without_iff] at howner
    rw [layersOf_without] at hnone
    rw [apps_without] at happ
    refine ⟨i, hi, app, happ, family, t, ht, howner, fun l hl => ?_, hleft⟩
    by_contra hne
    obtain ⟨first, hgives⟩ := exists_givesFirst hl hne
    have htakes : ∀ leaf ∈ first.resolve reference, ∃ t, r.Takes t first leaf := by
      intro leaf hleaf
      have hown : ¬(family = .secret ∧ r.LeftToPatch i app family t reference) :=
        fun hsecret => hleft hsecret.2
      exact ⟨t, (name, i), hi, app, happ, family, ht, owner, howner, reference, hreference, hgives,
        hleaf, hown⟩
    obtain ⟨m, hm, hne⟩ := exists_resolve_without_ne_nil h hadvised hi hgives htakes
    exact hne (hnone _ (List.mem_map_of_mem hm))
  · rintro ⟨i, hi, app, happ, family, t, ht, howner, hnone, hleft⟩
    refine ⟨i.without entries, mem_installations_without_iff.2 ⟨i, hi, rfl⟩, app, ?_, family, t, ht,
      bringsIn_without_iff.2 howner, fun m hm => ?_, hleft⟩
    · rwa [apps_without]
    · rw [layersOf_without] at hm
      obtain ⟨l, hl, rfl⟩ := List.mem_map.1 hm
      by_contra hne
      exact Layer.resolve_ne_nil_of_without hne (hnone l hl)

end Repository

namespace Survey

open Repository

/-- What the small repository is advised to remove. -/
theorem advice_for_smallStore : (load smallStore .standard).toOption.map
    (Rule.advised (LayerCheck.share 1 4)) =
    some [("installations/gauss/config.yaml.patch", "a"),
      ("installations/gauss/config.yaml.patch", "b"), ("default/config.yaml", "b"),
      ("installations/gauss/secret.yaml", "old")] := by
  rw [load_smallStore]
  decide +kernel

/-- Entries that are advised to be removed can be removed, all of them or some: the installations
that a reference is missing in remain the same. -/
theorem removing_advised_entries_leaves_what_is_missing_as_it_was {σ : Type} [FileStore σ]
    {store : σ} {vocabulary : Template.Vocabulary} {s : Survey}
    (h : load store vocabulary = .ok s) {threshold : Binary64} {entries : List (String × String)}
    (hadvised : ∀ e ∈ entries, e ∈ Rule.advised threshold s) :
    (s.repository.without entries).templates = s.repository.templates ∧
      ∀ t ∈ s.repository.templates, ∀ reference ∈ t.reads.keys,
        (ofRepository (s.repository.without entries)).missingIn t reference =
          s.missingIn t reference := by
  obtain ⟨hplaced, hs⟩ := placed_of_load h
  rw [hs] at hadvised
  refine ⟨templates_without, fun t ht reference hreference => ?_⟩
  have ht' : t ∈ (s.repository.without entries).templates := by rwa [templates_without]
  refine (pairwise_missingIn _ t reference).eq_of_mem_iff (pairwise_missingIn _ t reference)
    fun name => ?_
  rw [mem_missingIn_iff (placed_without hplaced) ht' hreference,
    lacks_without_iff hplaced hadvised hreference]
  conv => rhs; rw [hs]
  exact (mem_missingIn_iff hplaced ht hreference).symm

/-- The small repository can do without a duplicate and a value that is not read. -/
theorem the_small_store_misses_the_same_without_two_entries :
    ∃ s, load smallStore .standard = .ok s ∧
      (∀ e ∈ [("installations/gauss/config.yaml.patch", "a"), ("default/config.yaml", "b")],
        e ∈ Rule.advised (LayerCheck.share 1 4) s) ∧
      ∃ t ∈ s.repository.templates, "gone" ∈ t.reads.keys ∧
        (ofRepository (s.repository.without
          [("installations/gauss/config.yaml.patch", "a"), ("default/config.yaml", "b")])).missingIn
            t "gone" = ["gauss", "kvm"] := by
  obtain ⟨s, hload, hadvice⟩ := exists_of_load_map advice_for_smallStore
  obtain ⟨t, ht, _, hgone, hmissing⟩ := gone_in_smallStore hload
  have hadvised : ∀ e ∈ [("installations/gauss/config.yaml.patch", "a"),
      ("default/config.yaml", "b")], e ∈ Rule.advised (LayerCheck.share 1 4) s := by
    rw [hadvice]
    decide
  refine ⟨s, hload, hadvised, t, ht, hgone, ?_⟩
  obtain ⟨_, hsame⟩ := removing_advised_entries_leaves_what_is_missing_as_it_was hload hadvised
  rw [hsame t ht "gone" hgone, hmissing]

end Survey

end LayerLint
