-- The advice to remove values. Four rules give it: for values of an override that the base gives
-- already, for values of an override or of the base that no app reads, and for secrets that no
-- template reads. Each time the entry is named by its file and its path.
import LayerLint.Proofs.Lint.Overshadow
import LayerLint.Proofs.Lint.UnusedOverride

namespace LayerLint

namespace LayerCheck

open Repository Survey

variable {s : Survey} {f : Finding}

/-! ## What the checks of layers report -/

/-- A value of an override that is reported as an error is read by no app. -/
theorem of_error_mem_unusedInOverrides {threshold : Binary64}
    (hf : f ∈ unusedInOverrides threshold s) (herror : f.severity = .error) :
    ∃ i ∈ s.repository.installations.entries, f.file = i.2.override.path ∧
      consumers (s.usedBy i.2.override f.path) = [] := by
  obtain ⟨name, i, hi, _, leaf, _, hf⟩ := mem_unusedInOverrides_iff.1 hf
  obtain ⟨hfile, rfl, ⟨hnone, _⟩ | ⟨_, _, hsuggestion, _⟩⟩ := mem_usageOfOverride_iff.1 hf
  · exact ⟨(name, i), hi, hfile, List.length_eq_zero_iff.1 hnone⟩
  · cases herror.symm.trans hsuggestion

/-- A value of the base that is reported as an error is read by no app, and neither is what stands
in its place. -/
theorem of_error_mem_unusedInBase (hf : f ∈ unusedInBase s) (herror : f.severity = .error) :
    f.file = s.repository.base.path ∧ f.path ∈ s.repository.base.values.keys ∧
      readersOfBase s f.path = [] := by
  unfold unusedInBase at hf
  split at hf
  · exact absurd hf List.not_mem_nil
  · obtain ⟨path, hpath, hf⟩ := List.mem_flatMap.1 hf
    split at hf
    · rename_i hnone
      cases List.mem_singleton.1 hf
      exact ⟨rfl, hpath, hnone⟩
    · cases List.mem_singleton.1 hf
      cases herror
    · exact absurd hf List.not_mem_nil

/-- A secret that is reported is used by no template. -/
theorem of_mem_unusedSecrets (hf : f ∈ unusedSecrets s) :
    ∃ i ∈ s.repository.installations.entries, f.file = i.2.secret.path ∧
      s.usedBy i.2.secret f.path = [] := by
  unfold unusedSecrets at hf
  split at hf
  · exact absurd hf List.not_mem_nil
  · obtain ⟨i, hi, hf⟩ := List.mem_flatMap.1 hf
    obtain ⟨path, hpath, rfl⟩ := List.mem_map.1 hf
    obtain ⟨_, hnone⟩ := List.mem_filter.1 hpath
    exact ⟨i, hi, rfl, List.isEmpty_iff.1 hnone⟩

/-- If no app reads a value of the base or what stands in its place, then no template takes it from
the base or from a layer over it. -/
theorem untaken_of_readersOfBase_eq_nil {r : Repository} (h : Placed r) {leaf : String}
    (hnone : readersOfBase (ofRepository r) leaf = []) {layer : Layer}
    (hl : layer ∈ r.base :: (ofRepository r).layersOver r.base leaf) (t : TemplateFile) :
    ¬r.Takes t layer leaf := by
  intro ht
  have hused := (mem_usedBy_iff h (mem_layers_of_mem_stack hl)).2 ht
  exact consumers_ne_nil_of_takes h ht (List.mem_flatMap.2 ⟨layer, hl, hused⟩) hnone

end LayerCheck

namespace Rule

open Repository Survey LayerCheck

/-! ## Entries that are advised to be removed -/

/-- The entries that are reported as duplicates or as unused, by file and path. What is merely
suggested is not among them. -/
def advised (threshold : Binary64) (s : Survey) : List (String × String) :=
  (duplicateConfigValue.check s ++
    ((unusedConfigPatchValue threshold).check s).filter (·.isError) ++
    (unusedConfigValue.check s).filter (·.isError) ++
    unusedSecretValue.check s).map fun d => (d.file, d.path)

theorem of_mem_advised {threshold : Binary64} {s : Survey} {file path : String}
    (h : (file, path) ∈ advised threshold s) :
    (∃ f ∈ duplicates s, f.file = file ∧ f.path = path) ∨
      (∃ f ∈ unusedInOverrides threshold s, f.severity = .error ∧ f.file = file ∧ f.path = path) ∨
      (∃ f ∈ unusedInBase s, f.severity = .error ∧ f.file = file ∧ f.path = path) ∨
      ∃ f ∈ unusedSecrets s, f.file = file ∧ f.path = path := by
  obtain ⟨d, hd, heq⟩ := List.mem_map.1 h
  obtain ⟨hfile, hpath⟩ := Prod.mk.inj heq
  simp only [List.mem_append, List.mem_filter] at hd
  rcases hd with ((hd | ⟨hd, herror⟩) | ⟨hd, herror⟩) | hd
  · obtain ⟨f, hf, rfl⟩ := List.mem_map.1 hd
    exact .inl ⟨f, hf, hfile, hpath⟩
  · obtain ⟨f, hf, rfl⟩ := List.mem_map.1 hd
    exact .inr (.inl ⟨f, hf, of_decide_eq_true herror, hfile, hpath⟩)
  · obtain ⟨f, hf, rfl⟩ := List.mem_map.1 hd
    exact .inr (.inr (.inl ⟨f, hf, of_decide_eq_true herror, hfile, hpath⟩))
  · obtain ⟨f, hf, rfl⟩ := List.mem_map.1 hd
    exact .inr (.inr (.inr ⟨f, hf, hfile, hpath⟩))

variable {threshold : Binary64} {r : Repository}

/-- An entry that is advised to be removed stands over one of the base, or no template takes it;
if it is an entry of the base, then no template takes what stands over it either. -/
theorem overshadows_or_untaken_of_mem_advised (h : Placed r) {p : LayerPlace} {l : Layer}
    (hl : r.layer? p = some l) {leaf : String}
    (hadvised : (l.path, leaf) ∈ advised threshold (ofRepository r)) :
    l ∈ (ofRepository r).layersOver r.base leaf ∨
      (∀ t, ¬r.Takes t l leaf) ∧
        (p = .base → ∀ o ∈ (ofRepository r).layersOver r.base leaf, ∀ t, ¬r.Takes t o leaf) := by
  rcases of_mem_advised hadvised with
    ⟨f, hf, hfile, rfl⟩ | ⟨f, hf, herror, hfile, rfl⟩ | ⟨f, hf, herror, hfile, rfl⟩ |
      ⟨f, hf, hfile, rfl⟩
  · obtain ⟨i, hi, value, hother, hbase, hsame⟩ := of_mem_duplicates hf
    obtain ⟨rfl, rfl⟩ := h.layer?_eq hl (layer?_override hi) (hfile.symm.trans hother)
    refine .inl (mem_layersOver_base_iff.2 ⟨⟨i, hi, rfl⟩, ?_, ?_⟩)
    · exact SortedMap.mem_keys_iff.2 ⟨value, hbase⟩
    · exact SortedMap.mem_keys_iff.2 ⟨value, hsame⟩
  · obtain ⟨i, hi, hother, hnone⟩ := of_error_mem_unusedInOverrides hf herror
    obtain ⟨rfl, rfl⟩ := h.layer?_eq hl (layer?_override hi) (hfile.symm.trans hother)
    have hunused := (consumers_eq_nil_iff h (mem_layers_of_override hi)).1 hnone
    exact .inr ⟨(usedBy_eq_nil_iff h (mem_layers_of_override hi)).1 hunused, nofun⟩
  · obtain ⟨hother, _, hnone⟩ := of_error_mem_unusedInBase hf herror
    obtain ⟨rfl, rfl⟩ := h.layer?_eq hl (q := .base) rfl (hfile.symm.trans hother)
    refine .inr ⟨untaken_of_readersOfBase_eq_nil h hnone List.mem_cons_self, fun _ o ho => ?_⟩
    exact untaken_of_readersOfBase_eq_nil h hnone (List.mem_cons_of_mem _ ho)
  · obtain ⟨i, hi, hother, hnone⟩ := of_mem_unusedSecrets hf
    obtain ⟨rfl, rfl⟩ := h.layer?_eq hl (layer?_secret hi) (hfile.symm.trans hother)
    exact .inr ⟨(usedBy_eq_nil_iff h (mem_layers_of_secret hi)).1 hnone, nofun⟩

/-- An entry of the base is not advised to be removed while a template takes what stands over it. -/
theorem not_mem_advised_of_takes_above (h : Placed r) {leaf : String} {above : Layer}
    (habove : above ∈ (ofRepository r).layersOver r.base leaf) {t : TemplateFile}
    (ht : r.Takes t above leaf) : (r.base.path, leaf) ∉ advised threshold (ofRepository r) := by
  intro hadvised
  rcases overshadows_or_untaken_of_mem_advised h (p := .base) rfl hadvised with hbase | ⟨_, hnone⟩
  · obtain ⟨⟨i, hi, heq⟩, _⟩ := mem_layersOver_base_iff.1 hbase
    have hplace : r.layer? (.override i.1) = some r.base := heq ▸ layer?_override hi
    cases h.layerPlace_eq (p := .base) rfl hplace
  · exact hnone rfl above habove t ht

end Rule

end LayerLint
