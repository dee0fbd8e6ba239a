-- Values of the base that are reported as unused. A reference to a whole mapping is looked up in
-- the first layer that has anything of the mapping, and only there; so the report is right about
-- the references that an override has nothing for, and not about all that reach down to the value.
import LayerLint.Proofs.Lint.Advice
import LayerLint.Proofs.Repository.Resolve
import Mathlib.Tactic.ByContra

namespace LayerLint.Rule

open Repository Survey LayerCheck

/-! ## Mappings that an override has a part of -/

/-- The installation gives one part of a mapping anew, and the base has a value with a point in its
key. -/
def partialStore : MemoryStore :=
  MemoryStore.ofFiles
    [("default/config.yaml",
      "a: 1\na.b: 2\nregistry:\n  domain: d\n  mirror: m\n".toUTF8.toList),
     ("default/apps/foo/configmap-values.yaml.template",
      "a: \x7b\x7b .a \x7d\x7d\nr: \x7b\x7b .registry \x7d\x7d\n".toUTF8.toList),
     ("installations/gauss/config.yaml.patch", "registry:\n  domain: x\n".toUTF8.toList),
     ("installations/gauss/secret.yaml", "".toUTF8.toList)]

/-- What is reported about the base, what the template of the app reads, and what the installation
gives anew. -/
theorem report_for_partialStore : (Survey.load partialStore .standard).toOption.map
    (fun s => (((unusedConfigValue.check s).filter (·.isError)).map (·.path),
      (s.repository.defaultTemplate? "foo" .config).map (·.reads.keys), s.repository.apps,
      s.repository.installations.entries.map fun i => i.2.override.values.keys)) =
    some (["a.b", "registry.mirror"], some ["a", "registry"], ["foo"], [["registry.domain"]]) := by
  decide +kernel

/-- The registry is read as a whole and the installation gives anew only its domain, and yet the
mirror is reported; and so is a value below one that is read itself. -/
theorem a_value_that_is_read_as_part_of_a_mapping_can_be_reported_unused :
    ∃ s, Survey.load partialStore .standard = .ok s ∧
      ∀ path ∈ ["a.b", "registry.mirror"],
        (∃ d ∈ unusedConfigValue.check s, d.severity = .error ∧ d.path = path) ∧
        ∃ i ∈ s.repository.installations.entries, ∃ app ∈ s.repository.apps, ∃ t,
          s.repository.HasTemplate i.2 app .config t ∧ ∃ owner, s.repository.BringsIn t owner ∧
            ∃ reference ∈ owner.reads.keys,
              (path = reference ∨ ValuePath.isDescendant path reference = true) ∧
              ∀ key ∈ i.2.override.values.keys,
                key ≠ path ∧ ValuePath.isDescendant path key = false := by
  obtain ⟨s, hload, hs⟩ := exists_of_load_map report_for_partialStore
  simp only [Prod.mk.injEq] at hs
  obtain ⟨hreport, htemplate, happs, hkeys⟩ := hs
  obtain ⟨t, ht, hreads⟩ := Option.map_eq_some_iff.1 htemplate
  obtain ⟨i, hi, hpatch⟩ := List.mem_map.1 (hkeys ▸ List.mem_singleton_self _)
  have happ : "foo" ∈ s.repository.apps := by
    rw [happs]
    exact List.mem_singleton_self _
  refine ⟨s, hload, fun path hpath => ⟨?_, i, hi, "foo", happ, t, .inr ht, t, .self, ?_⟩⟩
  · rw [← hreport] at hpath
    obtain ⟨d, hd, rfl⟩ := List.mem_map.1 hpath
    obtain ⟨hd, herror⟩ := List.mem_filter.1 hd
    exact ⟨d, hd, of_decide_eq_true herror, rfl⟩
  · rw [hreads, hpatch]
    revert path
    decide

/-! ## Values that are in force -/

/-- A value of the base that is reported as unused is in force for no reference of a config
template: none stands for it in the base, be it its path or that of a mapping above it, unless the
override of the installation has something for the reference. -/
theorem a_base_value_that_is_reported_unused_is_in_force_for_no_reference {σ : Type} [FileStore σ]
    {store : σ} {vocabulary : Template.Vocabulary} {s : Survey}
    (h : Survey.load store vocabulary = .ok s) {d : Diagnostic}
    (hd : d ∈ unusedConfigValue.check s) (herror : d.severity = .error) :
    ¬∃ i ∈ s.repository.installations.entries, ∃ app ∈ s.repository.apps, ∃ t,
      s.repository.HasTemplate i.2 app .config t ∧ ∃ owner, s.repository.BringsIn t owner ∧
        ∃ reference ∈ owner.reads.keys,
          (d.path = reference ∨ ValuePath.isDescendant d.path reference = true ∧
            reference ∉ s.repository.base.values.keys) ∧
          ∀ key ∈ i.2.override.values.keys,
            key ≠ reference ∧ ValuePath.isDescendant key reference = false := by
  obtain ⟨hplaced, hs⟩ := placed_of_load h
  obtain ⟨f, hf, rfl⟩ := List.mem_map.1 hd
  have hf : f ∈ unusedInBase s := hf
  obtain ⟨_, hkey, hnone⟩ := of_error_mem_unusedInBase hf herror
  rw [hs] at hnone
  rintro ⟨i, hi, app, happ, t, ht, owner, howner, reference, hreference, hat, hoverride⟩
  have hleaf : f.path ∈ s.repository.base.resolve reference :=
    Layer.mem_resolve_iff.2 ⟨hkey, hat.imp_right And.symm⟩
  have hnothing : i.2.override.resolve reference = [] := by
    by_contra hne
    obtain ⟨key, hmem, hkey⟩ := Layer.resolve_ne_nil_iff.1 hne
    obtain ⟨hself, hbelow⟩ := hoverride key hmem
    rcases hkey with rfl | hkey
    · exact hself rfl
    · rw [hkey] at hbelow
      cases hbelow
  have hgives : GivesFirst (s.repository.layersOf i.2 .config) reference s.repository.base := by
    refine ⟨[i.2.override], [], rfl, fun l hl => ?_, List.ne_nil_of_mem hleaf⟩
    cases List.mem_singleton.1 hl
    exact hnothing
  have htakes : s.repository.Takes t s.repository.base f.path :=
    ⟨i, hi, app, happ, .config, ht, owner, howner, reference, hreference, hgives, hleaf, by simp⟩
  exact untaken_of_readersOfBase_eq_nil hplaced hnone List.mem_cons_self t htakes

/-- The mirror that is reported is in force for no reference: the override has a part of what the
template reads. -/
theorem the_mirror_of_the_partial_store_is_in_force_for_no_reference :
    ∃ s, Survey.load partialStore .standard = .ok s ∧
      ∃ d ∈ unusedConfigValue.check s, d.severity = .error ∧ d.path = "registry.mirror" ∧
        ¬∃ i ∈ s.repository.installations.entries, ∃ app ∈ s.repository.apps, ∃ t,
          s.repository.HasTemplate i.2 app .config t ∧ ∃ owner, s.repository.BringsIn t owner ∧
            ∃ reference ∈ owner.reads.keys,
              (d.path = reference ∨ ValuePath.isDescendant d.path reference = true ∧
                reference ∉ s.repository.base.values.keys) ∧
              ∀ key ∈ i.2.override.values.keys,
                key ≠ reference ∧ ValuePath.isDescendant key reference = false := by
  obtain ⟨s, hload, hs⟩ := exists_of_load_map report_for_partialStore
  simp only [Prod.mk.injEq] at hs
  obtain ⟨hreport, _⟩ := hs
  have hmirror : "registry.mirror" ∈
      ((unusedConfigValue.check s).filter (·.isError)).map (·.path) := by
    rw [hreport]
    decide
  obtain ⟨d, hd, hpath⟩ := List.mem_map.1 hmirror
  obtain ⟨hd, herror⟩ := List.mem_filter.1 hd
  have herror : d.severity = .error := of_decide_eq_true herror
  refine ⟨s, hload, d, hd, herror, hpath, ?_⟩
  exact a_base_value_that_is_reported_unused_is_in_force_for_no_reference hload hd herror

end LayerLint.Rule
