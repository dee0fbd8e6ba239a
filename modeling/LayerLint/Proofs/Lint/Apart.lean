-- No check finds one thing twice. A finding about a value names its file and its path, of which each
-- is looked at once; a finding about a file names what it is about in its message.
import LayerLint.Proofs.Lint.Overshadow
import LayerLint.Proofs.Lint.Undefined
import LayerLint.Proofs.Lint.UnusedOverride

namespace LayerLint

open Repository Survey Finding

/-! ## Fragments that a template brings in -/

theorem nodup_eraseDups (l : List String) : l.eraseDups.Nodup := by
  induction hlength : l.length using Nat.strongRecOn generalizing l with
  | _ n ih =>
    cases l with
    | nil => exact List.nodup_nil
    | cons first rest =>
      rw [List.eraseDups_cons, List.nodup_cons]
      constructor
      · simp [List.mem_eraseDups]
      · refine ih _ ?_ _ rfl
        rw [← hlength]
        exact Nat.lt_succ_of_le (List.length_filter_le _ _)

/-- A template that is loaded names no fragment twice. -/
theorem Repository.nodup_includes_of_load {σ : Type} [FileStore σ] {store : σ}
    {vocabulary : Template.Vocabulary} {r : Repository} (h : load store vocabulary = .ok r)
    {t : TemplateFile} (ht : t ∈ r.templates) : t.includes.Nodup := by
  obtain ⟨place, hplace⟩ := (placed_of_load h).template_of_mem ht
  obtain ⟨_, hload⟩ := template_of_load h hplace
  obtain ⟨octets, _, hread⟩ := read_of_loadTemplate hload
  unfold TemplateFile.read at hread
  split at hread
  · split at hread
    · cases hread
    · rename_i analysis hanalysis
      cases hread
      unfold Template.analyze at hanalysis
      split at hanalysis
      · cases hanalysis
      · split at hanalysis
        · cases hanalysis
        · split at hanalysis
          · cases hanalysis
          · cases hanalysis
            exact nodup_eraseDups _
  · cases hread

variable {s : Survey}

/-! ## Checks of layers -/

namespace LayerCheck

theorem apart_duplicates (h : Placed s.repository) : (duplicates s).Pairwise Apart := by
  rw [duplicates_eq]
  refine pairwise_apart_of_path _ s.repository.base.values.nodup_keys ?_ fun e _ => ?_
  · intro e _ f hf
    obtain ⟨i, _, hf⟩ := List.mem_flatMap.1 hf
    exact (of_mem_duplicate hf).2.1
  · refine pairwise_apart_of_file _ h.nodup_override_paths ?_ fun i _ => ?_
    · exact fun i _ f hf => (of_mem_duplicate hf).1
    · unfold duplicate
      split
      · exact List.pairwise_singleton _ _
      · exact .nil

theorem apart_overshadowed (threshold : Binary64) (s : Survey) :
    (overshadowed threshold s).Pairwise Apart := by
  unfold overshadowed
  dsimp only
  split
  · exact .nil
  · refine List.pairwise_filterMap.2 (s.repository.base.values.nodup_keys.imp ?_)
    intro path other hne f hf g hg
    obtain ⟨_, _, rfl⟩ := Option.map_eq_some_iff.1 hf
    obtain ⟨_, _, rfl⟩ := Option.map_eq_some_iff.1 hg
    exact fun _ heq => absurd heq hne

theorem apart_unusedInOverrides (h : Placed s.repository) (threshold : Binary64) :
    (unusedInOverrides threshold s).Pairwise Apart := by
  unfold unusedInOverrides
  refine pairwise_apart_of_file _ h.nodup_override_paths ?_ ?_
  · rintro ⟨name, i⟩ _ f hf
    dsimp only at hf
    split at hf
    · exact absurd hf List.not_mem_nil
    · obtain ⟨path, _, hf⟩ := List.mem_flatMap.1 hf
      exact (mem_usageOfOverride_iff.1 hf).1
  · rintro ⟨name, i⟩ _
    dsimp only
    split
    · exact .nil
    · refine pairwise_apart_of_path id ?_ ?_ fun path _ => ?_
      · rw [List.map_id]
        exact i.override.values.nodup_keys
      · exact fun path _ f hf => (mem_usageOfOverride_iff.1 hf).2.1
      · unfold usageOfOverride
        split
        · exact List.pairwise_singleton _ _
        · split
          · exact List.pairwise_singleton _ _
          · exact .nil

theorem apart_unusedInBase (s : Survey) : (unusedInBase s).Pairwise Apart := by
  unfold unusedInBase
  dsimp only
  split
  · exact .nil
  · refine pairwise_apart_of_path id ?_ ?_ fun path _ => ?_
    · rw [List.map_id]
      exact s.repository.base.values.nodup_keys
    · intro path _ f hf
      split at hf
      · cases List.mem_singleton.1 hf
        rfl
      · cases List.mem_singleton.1 hf
        rfl
      · exact absurd hf List.not_mem_nil
    · split
      · exact List.pairwise_singleton _ _
      · exact List.pairwise_singleton _ _
      · exact .nil

theorem apart_unusedSecrets (h : Placed s.repository) : (unusedSecrets s).Pairwise Apart := by
  unfold unusedSecrets
  split
  · exact .nil
  · refine pairwise_apart_of_file _ h.nodup_secret_paths ?_ ?_
    · rintro ⟨name, i⟩ _ f hf
      obtain ⟨path, _, rfl⟩ := List.mem_map.1 hf
      rfl
    · rintro ⟨name, i⟩ _
      refine pairwise_apart_map (i.secret.values.nodup_keys.filter _) ?_
      exact fun path other hne _ heq => absurd heq hne

end LayerCheck

/-! ## Checks of templates -/

namespace TemplateCheck

theorem apart_undefinedValues (h : Placed s.repository) :
    (undefinedValues s).Pairwise Apart := by
  rw [undefinedValues_eq]
  refine pairwise_apart_of_file _ h.nodup_template_paths ?_ fun t _ => ?_
  · intro t _ f hf
    obtain ⟨reference, _, hf⟩ := List.mem_flatMap.1 hf
    exact (file_and_path_of_undefinedValue hf).1
  · refine pairwise_apart_of_path id ?_ ?_ fun reference _ => ?_
    · rw [List.map_id]
      exact t.reads.nodup_keys
    · exact fun reference _ f hf => (file_and_path_of_undefinedValue hf).2
    · cases s.missingIn t reference with
      | nil => exact .nil
      | cons first rest => exact List.pairwise_singleton _ _

theorem apart_missingFragments (h : Placed s.repository)
    (hincludes : ∀ t ∈ s.repository.templates, t.includes.Nodup) :
    (missingFragments s).Pairwise Apart := by
  unfold missingFragments
  refine pairwise_apart_of_file _ h.nodup_template_paths ?_ fun t ht => ?_
  · intro t _ f hf
    obtain ⟨fragment, _, rfl⟩ := List.mem_map.1 hf
    rfl
  · refine pairwise_apart_map ((hincludes t ht).filter _) fun fragment other hne _ _ heq => ?_
    exact hne ((String.append_right_inj _).1 heq)

theorem apart_unusedFragments (s : Survey) : (unusedFragments s).Pairwise Apart := by
  unfold unusedFragments
  refine pairwise_apart_map (s.repository.fragments.nodup_keys.filter _) ?_
  exact fun fragment other hne heq => absurd heq hne

end TemplateCheck

/-! ## All rules -/

/-- No rule finds one thing twice in a repository that is loaded. -/
theorem Rule.apart_findings {σ : Type} [FileStore σ] {store : σ}
    {vocabulary : Template.Vocabulary} (h : Survey.load store vocabulary = .ok s) (rule : Rule) :
    (rule.findings s).Pairwise Apart := by
  obtain ⟨hplaced, _⟩ := Survey.placed_of_load h
  have hincludes : ∀ t ∈ s.repository.templates, t.includes.Nodup :=
    fun t => nodup_includes_of_load (repository_of_load h)
  cases rule with
  | duplicateConfigValue => exact LayerCheck.apart_duplicates hplaced
  | missingInclude => exact TemplateCheck.apart_missingFragments hplaced hincludes
  | overshadowedConfigValue threshold => exact LayerCheck.apart_overshadowed threshold s
  | undefinedTemplateValue => exact TemplateCheck.apart_undefinedValues hplaced
  | unusedConfigPatchValue threshold => exact LayerCheck.apart_unusedInOverrides hplaced threshold
  | unusedConfigValue => exact LayerCheck.apart_unusedInBase s
  | unusedInclude => exact TemplateCheck.apart_unusedFragments s
  | unusedSecretValue => exact LayerCheck.apart_unusedSecrets hplaced

end LayerLint
