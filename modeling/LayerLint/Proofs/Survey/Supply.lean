-- What a template supplies: what its skeleton sets outright, and besides a mapping of which the
-- skeleton sets nothing but values that the template reads itself. A patch with such echoes hides a
-- reference to the whole mapping, but not the references that the echoes are.
import LayerLint.Proofs.Repository.Isolation
import LayerLint.Proofs.Repository.Resolve
import LayerLint.Proofs.Survey.Usage
import Mathlib.Tactic.ByContra

namespace LayerLint

theorem ValuePath.isDescendant_trans {path middle ancestor : String}
    (hpath : isDescendant path middle = true) (hmiddle : isDescendant middle ancestor = true) :
    isDescendant path ancestor = true := by
  obtain ⟨rest, hrest⟩ := isDescendant_iff.1 hpath
  obtain ⟨first, hfirst⟩ := isDescendant_iff.1 hmiddle
  refine isDescendant_iff.2 ⟨first ++ separator :: rest, ?_⟩
  rw [hrest, hfirst, List.append_assoc, List.cons_append]

/-- A reference to a value below one that nothing is found for finds nothing either. -/
theorem Layer.resolve_eq_nil_of_isDescendant {l : Layer} {below reference : String}
    (h : l.resolve reference = []) (hbelow : ValuePath.isDescendant below reference = true) :
    l.resolve below = [] := by
  by_contra hne
  obtain ⟨leaf, hkey, hleaf⟩ := resolve_ne_nil_iff.1 hne
  refine resolve_ne_nil_iff.2 ⟨leaf, hkey, .inr ?_⟩ h
  rcases hleaf with rfl | hleaf
  · exact hbelow
  · exact ValuePath.isDescendant_trans hleaf hbelow

namespace TemplateFile

/-! ## Values that are set outright and values that are echoed -/

/-- At a path, or below it, the skeleton sets a value that the template does not read. -/
def SetsOutright (t : TemplateFile) (path : String) : Prop :=
  ∃ q ∈ t.defines, (q = path ∨ ValuePath.isDescendant q path = true) ∧ q ∉ t.reads.keys

/-- Below a path, though not at it, the skeleton sets values, and the template reads all of them. -/
def OnlyEchoes (t : TemplateFile) (path : String) : Prop :=
  path ∉ t.defines ∧ (∃ q ∈ t.defines, ValuePath.isDescendant q path = true) ∧
    ∀ q ∈ t.defines, ValuePath.isDescendant q path = true → q ∈ t.reads.keys

variable {t : TemplateFile} {path : String}

theorem supplies_iff : t.supplies path = true ↔ path ∉ t.reads.keys ∧
    ∃ q ∈ t.defines, q = path ∨ ValuePath.isDescendant q path = true := by
  unfold supplies
  rw [Bool.and_eq_true, Bool.not_eq_true', Bool.eq_false_iff, ne_eq,
    SortedMap.contains_iff_mem_keys, List.any_eq_true]
  simp only [Bool.or_eq_true, beq_iff_eq]

theorem OnlyEchoes.not_setsOutright (h : t.OnlyEchoes path) : ¬t.SetsOutright path := by
  obtain ⟨hself, _, hreads⟩ := h
  rintro ⟨q, hq, rfl | hbelow, hunread⟩
  · exact hself hq
  · exact hunread (hreads q hq hbelow)

/-- Of a path that is supplied nothing need be set outright, if all below it is echoed. -/
theorem supplies_iff_setsOutright_or_onlyEchoes : t.supplies path = true ↔
    path ∉ t.reads.keys ∧ (t.SetsOutright path ∨ t.OnlyEchoes path) := by
  rw [supplies_iff]
  refine and_congr_right fun hunread => ⟨?_, ?_⟩
  · rintro ⟨q, hq, hat⟩
    by_cases hout : t.SetsOutright path
    · exact .inl hout
    · have hreads : ∀ p ∈ t.defines, p = path ∨ ValuePath.isDescendant p path = true →
          p ∈ t.reads.keys := by
        intro p hp hat
        by_contra hnot
        exact hout ⟨p, hp, hat, hnot⟩
      have hself : path ∉ t.defines := fun hself => hunread (hreads path hself (.inl rfl))
      refine .inr ⟨hself, ⟨q, hq, hat.resolve_left ?_⟩,
        fun p hp hbelow => hreads p hp (.inr hbelow)⟩
      rintro rfl
      exact hself hq
  · rintro (⟨q, hq, hat, _⟩ | ⟨_, ⟨q, hq, hbelow⟩, _⟩)
    · exact ⟨q, hq, hat⟩
    · exact ⟨q, hq, .inr hbelow⟩

end TemplateFile

namespace Survey

open Repository

/-! ## Echoes in a patch -/

/-- A reference below one that no layer has anything for is lacking in a patch that it stands in. -/
theorem lacks_of_isDescendant {r : Repository} (h : Placed r) {name : String} {i : Installation}
    (hi : (name, i) ∈ r.installations.entries) {app : String} {family : Family}
    {patch : TemplateFile} (hpatch : i.patch? app family = some patch) {path below : String}
    (hnone : ∀ l ∈ r.layersOf i family, l.resolve path = [])
    (hbelow : ValuePath.isDescendant below path = true) : r.Lacks patch below name := by
  have hnothing : ∀ l ∈ r.layersOf i family, l.resolve below = [] :=
    fun l hl => Layer.resolve_eq_nil_of_isDescendant (hnone l hl) hbelow
  refine ⟨i, hi, app, mem_apps_of_hasTemplate hi (.inl hpatch), family, patch, .inl hpatch, .self,
    hnothing, fun hleft => ?_⟩
  exact h.default_ne_patch hi hpatch hleft.1

/-- A template supplies a path that it does not read if it sets a value there outright, or if it
sets values below the path and only echoes them; it is never both. Where a patch only echoes, and no
layer has anything for the path, the echoes themselves are missing in the patch. -/
theorem what_is_supplied_is_set_outright_or_only_echoed_below (t : TemplateFile) (path : String) :
    (t.supplies path = true ↔
      path ∉ t.reads.keys ∧ (t.SetsOutright path ∨ t.OnlyEchoes path)) ∧
    ¬(t.SetsOutright path ∧ t.OnlyEchoes path) ∧
    ∀ {σ : Type} [FileStore σ] (store : σ) (vocabulary : Template.Vocabulary) (s : Survey),
      load store vocabulary = .ok s →
        ∀ name i, (name, i) ∈ s.repository.installations.entries →
          ∀ app family, i.patch? app family = some t → t.OnlyEchoes path →
            (∀ l ∈ s.repository.layersOf i family, l.resolve path = []) →
              ∀ below ∈ t.defines, ValuePath.isDescendant below path = true →
                name ∈ s.missingIn t below := by
  refine ⟨TemplateFile.supplies_iff_setsOutright_or_onlyEchoes,
    fun ⟨hout, hechoes⟩ => hechoes.not_setsOutright hout, ?_⟩
  intro σ _ store vocabulary s h name i hi app family hpatch hechoes hnone below hdefines hbelow
  obtain ⟨hplaced, hs⟩ := placed_of_load h
  rw [hs, mem_missingIn_iff hplaced (mem_of_patch? hi hpatch) (hechoes.2.2 below hdefines hbelow)]
  exact lacks_of_isDescendant hplaced hi hpatch hnone hbelow

/-- A template reads a mapping, and the patch over it passes the one value of the mapping on, which
no layer has. -/
def echoStore : MemoryStore :=
  MemoryStore.ofFiles
    [("default/config.yaml", "".toUTF8.toList),
     ("default/apps/foo/configmap-values.yaml.template",
      "x: \x7b\x7b .registry \x7d\x7d\n".toUTF8.toList),
     ("installations/gauss/config.yaml.patch", "".toUTF8.toList),
     ("installations/gauss/secret.yaml", "".toUTF8.toList),
     ("installations/gauss/apps/foo/configmap-values.yaml.patch",
      "registry:\n  domain: \x7b\x7b .registry.domain \x7d\x7d\n".toUTF8.toList)]

/-- The mapping is not missing in the template, because the patch supplies it. -/
theorem patch_in_echoStore : ∃ s ∈ (load echoStore .standard).toOption,
    ∃ i ∈ s.repository.installations.get? "gauss", ∃ patch ∈ i.patch? "foo" .config,
      patch.defines = ["registry.domain"] ∧ patch.reads.keys = ["registry.domain"] ∧
      patch.supplies "registry" = true ∧
      (∀ l ∈ s.repository.layersOf i .config, l.resolve "registry" = []) ∧
      ∃ t ∈ s.repository.defaultTemplate? "foo" .config,
        t.reads.keys = ["registry"] ∧ s.missingIn t "registry" = [] := by
  decide +kernel

/-- The patch only echoes below the mapping: the mapping is missing nowhere, and its value is
missing in the patch. -/
theorem the_echo_in_echoStore_is_missing_and_the_mapping_is_not :
    ∃ s, load echoStore .standard = .ok s ∧ ∃ i,
      ("gauss", i) ∈ s.repository.installations.entries ∧
        ∃ patch, i.patch? "foo" .config = some patch ∧ patch.supplies "registry" = true ∧
          patch.OnlyEchoes "registry" ∧ "gauss" ∈ s.missingIn patch "registry.domain" ∧
          ∃ t, s.repository.defaultTemplate? "foo" .config = some t ∧
            "registry" ∈ t.reads.keys ∧ s.missingIn t "registry" = [] := by
  obtain ⟨s, hs, i, hi, patch, hpatch, hdefines, hreads, hsupplies, hnone, t, ht, hread,
    hmissing⟩ := patch_in_echoStore
  have hload := eq_ok_of_mem_toOption hs
  have hentry := SortedMap.get?_eq_some_iff.1 hi
  have hkept := what_is_supplied_is_set_outright_or_only_echoed_below patch "registry"
  have hechoes : patch.OnlyEchoes "registry" := by
    refine (hkept.1.1 hsupplies).2.resolve_left ?_
    rintro ⟨q, hq, _, hunread⟩
    rw [hdefines] at hq
    exact hunread (hreads ▸ hq)
  refine ⟨s, hload, i, hentry, patch, hpatch, hsupplies, hechoes, ?_, t, ht, ?_, hmissing⟩
  · exact hkept.2.2 echoStore .standard s hload "gauss" i hentry "foo" .config hpatch hechoes hnone
      "registry.domain" (by rw [hdefines]; decide) (by decide)
  · rw [hread]
    exact List.mem_singleton_self _

/-- What a template supplies need not be set outright. -/
theorem a_patch_supplies_a_mapping_that_it_only_echoes :
    ∃ patch ∈ (TemplateFile.read .standard
        "installations/gauss/apps/foo/configmap-values.yaml.patch" (.patch .config)
        "registry:\n  domain: \x7b\x7b .registry.domain \x7d\x7d\n".toUTF8.toList).toOption,
      patch.supplies "registry" = true ∧
        ¬∃ q ∈ patch.defines,
          (q = "registry" ∨ ValuePath.isDescendant q "registry" = true) ∧ q ∉ patch.reads.keys := by
  decide +kernel

end Survey

end LayerLint
