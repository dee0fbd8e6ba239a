-- Installations do not interfere. What is said of one installation stays as it is, whatever
-- happens to the files of another one.
import LayerLint.Proofs.Repository.Isolation
import LayerLint.Proofs.Survey.Usage

namespace LayerLint.Survey

open Repository

variable {name : String} {r q : Repository}

/-- A reference is missing in another installation in both repositories or in neither. -/
theorem mem_missingIn_iff_of_sameOutside (h : SameOutside name r q) (hr : Placed r)
    (hq : Placed q) {other : String} (hother : other ≠ name) {t : TemplateFile}
    (ht : t ∈ r.templates) (ht' : t ∈ q.templates) {reference : String}
    (hreference : reference ∈ t.reads.keys) :
    other ∈ (ofRepository r).missingIn t reference ↔
      other ∈ (ofRepository q).missingIn t reference := by
  rw [mem_missingIn_iff hr ht hreference, mem_missingIn_iff hq ht' hreference]
  exact ⟨h.lacks hother, h.symm.lacks hother⟩

/-- The layers of another installation have the same users in both repositories. -/
theorem mem_usedBy_iff_of_sameOutside (h : SameOutside name r q) (hr : Placed r) (hq : Placed q)
    {other : String} (hother : other ≠ name) {i : Installation}
    (hi : (other, i) ∈ r.installations.entries) {layer : Layer}
    (hlayer : layer = i.override ∨ layer = i.secret) {leaf : String} {t : TemplateFile} :
    t ∈ (ofRepository r).usedBy layer leaf ↔ t ∈ (ofRepository q).usedBy layer leaf := by
  have hi' := h.mem_entries hother hi
  rcases hlayer with rfl | rfl
  · rw [mem_usedBy_iff hr (mem_layers_of_override hi),
      mem_usedBy_iff hq (mem_layers_of_override hi')]
    exact ⟨h.takes hr (layer?_override hi) rfl hother,
      h.symm.takes hq (layer?_override hi') rfl hother⟩
  · rw [mem_usedBy_iff hr (mem_layers_of_secret hi), mem_usedBy_iff hq (mem_layers_of_secret hi')]
    exact ⟨h.takes hr (layer?_secret hi) rfl hother,
      h.symm.takes hq (layer?_secret hi') rfl hother⟩

/-- Where two stores answer alike but for the files of one installation, the other installations
miss the same references of the same templates, and their layers have the same users. -/
theorem the_files_of_one_installation_change_nothing_for_another {σ τ : Type} [FileStore σ]
    [FileStore τ] {a : σ} {b : τ} (h : AgreeOutside name a b) {vocabulary : Template.Vocabulary}
    {s u : Survey} (hs : load a vocabulary = .ok s) (hu : load b vocabulary = .ok u)
    {other : String} (hother : other ≠ name) :
    (∀ t : TemplateFile, Text.beginsWith t.path (Layout.installationStart name) = false →
      (t ∈ s.repository.templates ↔ t ∈ u.repository.templates) ∧
      (t ∈ s.repository.templates → ∀ reference ∈ t.reads.keys,
        (other ∈ s.missingIn t reference ↔ other ∈ u.missingIn t reference))) ∧
    s.repository.installations.get? other = u.repository.installations.get? other ∧
    ∀ i, s.repository.installations.get? other = some i →
      ∀ layer, layer = i.override ∨ layer = i.secret → ∀ leaf t,
        (t ∈ s.usedBy layer leaf ↔ t ∈ u.usedBy layer leaf) := by
  obtain ⟨hr, hs'⟩ := placed_of_load hs
  obtain ⟨hq, hu'⟩ := placed_of_load hu
  have hsame := sameOutside_of_load h (repository_of_load hs) (repository_of_load hu)
  refine ⟨fun t hpath => ?_, hsame.installation other hother, fun i hi layer hlayer leaf t => ?_⟩
  · have hout : ¬(Layout.installationStart name).toList <+: t.path.toList := by
      rwa [← List.isPrefixOf_iff_prefix, Bool.not_eq_true]
    have hmem : t ∈ s.repository.templates ↔ t ∈ u.repository.templates :=
      ⟨hsame.mem_templates hr hout, hsame.symm.mem_templates hq hout⟩
    refine ⟨hmem, fun ht reference hreference => ?_⟩
    rw [hs', hu']
    exact mem_missingIn_iff_of_sameOutside hsame hr hq hother ht (hmem.1 ht) hreference
  · rw [hs', hu']
    exact mem_usedBy_iff_of_sameOutside hsame hr hq hother (SortedMap.get?_eq_some_iff.1 hi) hlayer

/-- The small repository with other values and with a patch for another app in one
installation. -/
def changedStore : MemoryStore :=
  (smallStore.insert "installations/gauss/config.yaml.patch" "gone: 5\n".toUTF8.toList).insert
    "installations/gauss/apps/bar/configmap-values.yaml.patch"
    "b: \x7b\x7b .b \x7d\x7d\n".toUTF8.toList

/-- In the changed repository no template misses the value that is gone in the installation that
was changed. -/
theorem survey_of_changedStore : (load changedStore .standard).toOption.map
    (fun s => s.repository.templates.all fun t => !(s.missingIn t "gone").contains "gauss") =
    some true := by
  decide +kernel

/-- The change gives the value that is gone to the one installation, and leaves it missing in the
other. -/
theorem the_value_that_is_gone_stays_missing_where_nothing_is_changed :
    ∃ s u, load smallStore .standard = .ok s ∧ load changedStore .standard = .ok u ∧
      ∃ t, s.missingIn t "gone" = ["gauss", "kvm"] ∧
        t ∈ u.repository.templates ∧ "kvm" ∈ u.missingIn t "gone" ∧
          "gauss" ∉ u.missingIn t "gone" := by
  obtain ⟨s, hs, _⟩ := exists_of_load_map survey_of_smallStore
  obtain ⟨u, hu, hgauss⟩ := exists_of_load_map survey_of_changedStore
  obtain ⟨t, ht, hpath, hgone, hmissing⟩ := gone_in_smallStore hs
  have hfiles : MemoryStore.SameFilesOutside "gauss" smallStore changedStore :=
    ((MemoryStore.SameFilesOutside.refl smallStore).insert _ (by decide)).insert _ (by decide)
  have hagree := hfiles.agreeOutside (show Plain "gauss" by simp [Plain])
  have hother : "kvm" ≠ "gauss" := by decide
  have hout : Text.beginsWith t.path (Layout.installationStart "gauss") = false := by
    rw [hpath]
    decide
  obtain ⟨hmem, hiff⟩ := (the_files_of_one_installation_change_nothing_for_another hagree hs hu
    hother).1 t hout
  have hu' := List.all_eq_true.1 hgauss t (hmem.1 ht)
  refine ⟨s, u, hs, hu, t, hmissing, hmem.1 ht, (hiff ht "gone" hgone).1 ?_, by simpa using hu'⟩
  rw [hmissing]
  decide

end LayerLint.Survey
