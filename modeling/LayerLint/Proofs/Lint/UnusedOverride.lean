-- What is reported about the values of overrides. A value of an override is taken only by templates
-- of apps that its installation has; so the readers that are counted are some of the apps that they
-- are counted among, and there are none only if no template takes the value.
import LayerLint.Lint.Rule
import LayerLint.Proofs.Repository.Isolation
import LayerLint.Proofs.Survey.Usage
import Mathlib.Data.List.Perm.Subperm

namespace LayerLint

namespace Survey

open Repository

/-! ## Readers of an override -/

variable {r : Repository} {name : String} {i : Installation}

/-- What takes a value of an override is a template of an app of the installation. -/
theorem app_of_takes_override (h : Placed r) (hi : (name, i) ∈ r.installations.entries)
    {leaf : String} {t : TemplateFile} (ht : r.Takes t i.override leaf) :
    ∃ app ∈ r.appsOf i, t.app = some app := by
  obtain ⟨⟨other, j⟩, hj, app, _, family, hhas, _, _, _, _, hgives, _⟩ := ht
  -- The template was resolved where this override is read, and that is in this installation only.
  have hname : other = name :=
    h.installation_of_mem_layersOf hj hgives.mem (layer?_override hi) rfl
  subst hname
  cases SortedMap.entry_eq hj hi
  exact ⟨app, mem_appsOf_of_hasTemplate hhas, app_of_hasTemplate h hi hhas⟩

theorem consumers_subset_appsOf (h : Placed r) (hi : (name, i) ∈ r.installations.entries)
    (leaf : String) : consumers ((ofRepository r).usedBy i.override leaf) ⊆ r.appsOf i := by
  intro app happ
  obtain ⟨t, ht, hsome⟩ := mem_consumers_iff.1 happ
  have htakes := (mem_usedBy_iff h (mem_layers_of_override hi)).1 ht
  obtain ⟨other, hother, heq⟩ := app_of_takes_override h hi htakes
  cases hsome.symm.trans heq
  exact hother

theorem length_consumers_le (h : Placed r) (hi : (name, i) ∈ r.installations.entries)
    (leaf : String) :
    (consumers ((ofRepository r).usedBy i.override leaf)).length ≤ (r.appsOf i).length :=
  (List.subperm_of_subset (nodup_distinct _) (consumers_subset_appsOf h hi leaf)).length_le

end Survey

namespace LayerCheck

open Repository Survey

/-! ## Findings -/

/-- What is found about a value names the layer and the value: an error if there are no readers, and
otherwise a suggestion with the readers and the apps. -/
theorem mem_usageOfOverride_iff {threshold : Binary64} {name : String} {layer : Layer}
    {path : String} {readers apps : Nat} {f : Finding} :
    f ∈ usageOfOverride threshold name layer path readers apps ↔
      f.file = layer.path ∧ f.path = path ∧
        (readers = 0 ∧ f.severity = .error ∧ f.message = "is unused" ∧
            f.hint = some ("No template of " ++ name ++ " reads it; consider removing it.") ∨
          readers ≠ 0 ∧ (share readers apps).atMost threshold = true ∧
            f.severity = .suggestion ∧ f.message = s!"is used by {readers}/{apps} apps" ∧
            f.hint = some
              "Consider moving it into the template patches of the apps that use it.") := by
  obtain ⟨severity, file, path', message, hint⟩ := f
  unfold usageOfOverride
  by_cases hnone : readers = 0
  · simp only [hnone, if_true, List.mem_singleton, Finding.mk.injEq]
    tauto
  · by_cases hfew : (share readers apps).atMost threshold = true
    · simp only [hnone, hfew, if_true, if_false, List.mem_singleton, Finding.mk.injEq]
      tauto
    · simp [hnone, hfew]

/-- The values of the overrides of installations that have an app are looked at one by one. -/
theorem mem_unusedInOverrides_iff {s : Survey} {threshold : Binary64} {f : Finding} :
    f ∈ unusedInOverrides threshold s ↔
      ∃ name i, (name, i) ∈ s.repository.installations.entries ∧ s.repository.appsOf i ≠ [] ∧
        ∃ leaf ∈ i.override.values.keys,
          f ∈ usageOfOverride threshold name i.override leaf
            (consumers (s.usedBy i.override leaf)).length (s.repository.appsOf i).length := by
  unfold unusedInOverrides
  simp only [List.mem_flatMap, Prod.exists]
  refine exists_congr fun name => exists_congr fun i => and_congr_right fun _ => ?_
  by_cases hnone : s.repository.appsOf i = []
  · simp [hnone]
  · have hlength : (s.repository.appsOf i).length ≠ 0 := mt List.length_eq_zero_iff.1 hnone
    simp [hnone, hlength, List.mem_flatMap]

variable {r : Repository}

/-- A value of an override is an error exactly if the installation has an app and nothing takes the
value. -/
theorem exists_error_iff (h : Placed r) (threshold : Binary64) {name : String} {i : Installation}
    (hi : (name, i) ∈ r.installations.entries) {leaf : String}
    (hleaf : leaf ∈ i.override.values.keys) :
    (∃ f ∈ unusedInOverrides threshold (ofRepository r),
        f.file = i.override.path ∧ f.path = leaf ∧ f.severity = .error) ↔
      r.appsOf i ≠ [] ∧ ∀ t, ¬r.Takes t i.override leaf := by
  have hnone : (consumers ((ofRepository r).usedBy i.override leaf)).length = 0 ↔
      ∀ t, ¬r.Takes t i.override leaf := by
    rw [List.length_eq_zero_iff, consumers_eq_nil_iff h (mem_layers_of_override hi),
      usedBy_eq_nil_iff h (mem_layers_of_override hi)]
  constructor
  · rintro ⟨f, hf, hfile, hpath, herror⟩
    obtain ⟨other, j, hj, happs, key, _, hf⟩ := mem_unusedInOverrides_iff.1 hf
    obtain ⟨hlayer, hkey, hfound⟩ := mem_usageOfOverride_iff.1 hf
    cases h.entry_eq_of_override_path hj hi (hlayer.symm.trans hfile)
    cases hkey.symm.trans hpath
    rcases hfound with ⟨hzero, _⟩ | ⟨_, _, hsuggestion, _⟩
    · exact ⟨happs, hnone.1 hzero⟩
    · cases herror.symm.trans hsuggestion
  · rintro ⟨happs, htakes⟩
    refine ⟨⟨.error, i.override.path, leaf, "is unused",
      some ("No template of " ++ name ++ " reads it; consider removing it.")⟩, ?_, rfl, rfl, rfl⟩
    refine mem_unusedInOverrides_iff.2 ⟨name, i, hi, happs, leaf, hleaf, ?_⟩
    exact mem_usageOfOverride_iff.2 ⟨rfl, rfl, .inl ⟨hnone.2 htakes, rfl, rfl, rfl⟩⟩

/-- What is found is about a value of an override, and says that it is unused or which share of the
apps reads it. -/
theorem of_mem_unusedInOverrides {threshold : Binary64} (h : Placed r) {f : Finding}
    (hf : f ∈ unusedInOverrides threshold (ofRepository r)) :
    ∃ name i, (name, i) ∈ r.installations.entries ∧ f.file = i.override.path ∧
      f.path ∈ i.override.values.keys ∧
      (f.severity = .error ∧ f.message = "is unused" ∨
        f.severity = .suggestion ∧ ∃ k n, f.message = s!"is used by {k}/{n} apps" ∧
          k = (consumers ((ofRepository r).usedBy i.override f.path)).length ∧
          n = (r.appsOf i).length ∧ 1 ≤ k ∧ k ≤ n ∧ (share k n).atMost threshold = true) := by
  obtain ⟨name, i, hi, _, leaf, hleaf, hf⟩ := mem_unusedInOverrides_iff.1 hf
  obtain ⟨hfile, rfl, hfound⟩ := mem_usageOfOverride_iff.1 hf
  refine ⟨name, i, hi, hfile, hleaf, ?_⟩
  rcases hfound with ⟨_, herror, hmessage, _⟩ | ⟨hsome, hfew, hsuggestion, hmessage, _⟩
  · exact .inl ⟨herror, hmessage⟩
  · exact .inr ⟨hsuggestion, _, _, hmessage, rfl, rfl, Nat.one_le_iff_ne_zero.2 hsome,
      length_consumers_le h hi _, hfew⟩

end LayerCheck

namespace Rule

open Repository Survey LayerCheck

/-- An app that reads a value of an override is one of the apps of the installation, and there is no
such app only if no template uses the value. Hence the value is reported as an error exactly if the
installation has an app and no template takes the value; and where a share of the apps is reported,
at least one app reads the value, and no more apps do than the installation has. -/
theorem the_readers_of_an_override_are_apps_of_its_installation {σ : Type} [FileStore σ] {store : σ}
    {vocabulary : Template.Vocabulary} {s : Survey} (h : Survey.load store vocabulary = .ok s)
    (threshold : Binary64) :
    (∀ name i, (name, i) ∈ s.repository.installations.entries →
      ∀ leaf ∈ i.override.values.keys,
        consumers (s.usedBy i.override leaf) ⊆ s.repository.appsOf i ∧
        (consumers (s.usedBy i.override leaf) = [] → s.usedBy i.override leaf = []) ∧
        ((∃ d ∈ (unusedConfigPatchValue threshold).check s,
            d.file = i.override.path ∧ d.path = leaf ∧ d.severity = .error) ↔
          s.repository.appsOf i ≠ [] ∧ ∀ t, ¬s.repository.Takes t i.override leaf)) ∧
    ∀ d ∈ (unusedConfigPatchValue threshold).check s, ∃ name i,
      (name, i) ∈ s.repository.installations.entries ∧ d.file = i.override.path ∧
      d.path ∈ i.override.values.keys ∧
      (d.severity = .error ∧ d.message = "is unused" ∨
        d.severity = .suggestion ∧ ∃ k n, d.message = s!"is used by {k}/{n} apps" ∧
          k = (consumers (s.usedBy i.override d.path)).length ∧
          n = (s.repository.appsOf i).length ∧ 1 ≤ k ∧ k ≤ n ∧
          (share k n).atMost threshold = true) := by
  obtain ⟨hplaced, hs⟩ := placed_of_load h
  obtain ⟨r, rfl⟩ : ∃ r, s = ofRepository r := ⟨_, hs⟩
  refine ⟨fun name i hi leaf hleaf => ⟨consumers_subset_appsOf hplaced hi leaf, ?_, ?_⟩,
    fun d hd => ?_⟩
  · exact (consumers_eq_nil_iff hplaced (mem_layers_of_override hi)).1
  · refine Iff.trans ⟨?_, ?_⟩ (exists_error_iff hplaced threshold hi hleaf)
    · rintro ⟨d, hd, hat⟩
      obtain ⟨f, hf, rfl⟩ := List.mem_map.1 hd
      exact ⟨f, hf, hat⟩
    · rintro ⟨f, hf, hat⟩
      exact ⟨_, List.mem_map.2 ⟨f, hf, rfl⟩, hat⟩
  · obtain ⟨f, hf, rfl⟩ := List.mem_map.1 hd
    exact of_mem_unusedInOverrides hplaced hf

/-- What is reported about the one installation of the small repository that gives values anew. -/
theorem overrides_of_smallRepository :
    ∃ i ∈ smallRepository.installations.get? "gauss",
      "b" ∈ i.override.values.keys ∧
      (∃ d ∈ (unusedConfigPatchValue (share 1 1)).check (ofRepository smallRepository),
        d.file = i.override.path ∧ d.path = "b" ∧ d.severity = .error) ∧
      ∃ d ∈ (unusedConfigPatchValue (share 1 1)).check (ofRepository smallRepository),
        d.path = "a" ∧ d.severity = .suggestion := by
  decide +kernel

/-- Of the two values that the installation gives anew no template takes one, and the other is
reported with the share of the apps that read it. -/
theorem the_small_store_has_a_value_without_readers_and_one_with_a_reader :
    ∃ s, Survey.load smallStore .standard = .ok s ∧
      ∃ i, ("gauss", i) ∈ s.repository.installations.entries ∧ "b" ∈ i.override.values.keys ∧
        (∀ t, ¬s.repository.Takes t i.override "b") ∧
        ∃ d ∈ (unusedConfigPatchValue (share 1 1)).check s, d.path = "a" ∧
          ∃ k n, d.message = s!"is used by {k}/{n} apps" ∧ 1 ≤ k ∧ k ≤ n := by
  obtain ⟨i, hi, hb, hunread, d, hd, hpath, hseverity⟩ := overrides_of_smallRepository
  have hentry := SortedMap.get?_eq_some_iff.1 hi
  obtain ⟨hvalues, hreport⟩ :=
    the_readers_of_an_override_are_apps_of_its_installation load_smallStore (share 1 1)
  obtain ⟨_, htakes⟩ := (hvalues "gauss" i hentry "b" hb).2.2.1 hunread
  obtain ⟨_, _, _, _, _, ⟨herror, _⟩ | ⟨_, k, n, hmessage, _, _, hone, hle, _⟩⟩ := hreport d hd
  · cases hseverity.symm.trans herror
  · exact ⟨_, load_smallStore, i, hentry, hb, htakes, d, hd, hpath, k, n, hmessage, hone, hle⟩

end Rule

end LayerLint
