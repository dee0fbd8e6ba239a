-- Reports of what templates miss. A reference is reported once, with the names of all installations
-- that it is lacking in, and nothing else is reported.
import LayerLint.Lint.Rule
import LayerLint.Proofs.Lint.Finding
import LayerLint.Proofs.Survey.Usage

namespace LayerLint.TemplateCheck

open Repository Survey

/-! ## Findings -/

/-- What is found about a reference that is missing in some installations. -/
def undefinedValue (t : TemplateFile) (reference : String) : List String → List Finding
  | [] => []
  | first :: rest =>
    [{ severity := .error
       file := t.path
       path := reference
       message := "is undefined for installation(s): " ++ ", ".intercalate (first :: rest)
       hint := some (remedy t.role) }]

theorem undefinedValues_eq (s : Survey) :
    undefinedValues s = s.repository.templates.flatMap fun t =>
      t.reads.keys.flatMap fun reference =>
        undefinedValue t reference (s.missingIn t reference) := by
  unfold undefinedValues
  congr 1
  funext t
  rw [List.filterMap_eq_flatMap_toList]
  congr 1
  funext reference
  cases s.missingIn t reference <;> rfl

theorem file_and_path_of_undefinedValue {t : TemplateFile} {reference : String}
    {names : List String} {f : Finding} (hf : f ∈ undefinedValue t reference names) :
    f.file = t.path ∧ f.path = reference := by
  cases names with
  | nil => exact absurd hf List.not_mem_nil
  | cons first rest =>
    cases List.mem_singleton.1 hf
    exact ⟨rfl, rfl⟩

variable {s : Survey} {t : TemplateFile} {reference : String}

/-- What is found at a reference of a template is what is found about this reference. -/
theorem filter_undefinedValues (h : Placed s.repository) (ht : t ∈ s.repository.templates)
    (hreference : reference ∈ t.reads.keys) :
    (undefinedValues s).filter (fun f => f.file = t.path ∧ f.path = reference) =
      undefinedValue t reference (s.missingIn t reference) := by
  rw [undefinedValues_eq, List.filter_flatMap, flatMap_eq_of_nodup h.nodup_templates ht,
    List.filter_flatMap, flatMap_eq_of_nodup t.reads.nodup_keys hreference]
  · refine List.filter_eq_self.2 fun f hf => ?_
    simpa using file_and_path_of_undefinedValue hf
  · intro other _ hne
    refine List.filter_eq_nil_iff.2 fun f hf => ?_
    obtain ⟨_, hpath⟩ := file_and_path_of_undefinedValue hf
    simp [hpath, hne]
  · intro u hu hne
    refine List.filter_eq_nil_iff.2 fun f hf => ?_
    obtain ⟨other, _, hf⟩ := List.mem_flatMap.1 hf
    obtain ⟨hfile, _⟩ := file_and_path_of_undefinedValue hf
    have hpath : u.path ≠ t.path := fun heq => hne (h.template_eq hu ht heq)
    simp [hfile, hpath]

/-! ## Diagnostics -/

/-- The diagnostics at a reference of a template: none if it is missing nowhere, and otherwise one
error. -/
theorem filter_check_undefinedTemplateValue (h : Placed s.repository)
    (ht : t ∈ s.repository.templates) (hreference : reference ∈ t.reads.keys) :
    (Rule.undefinedTemplateValue.check s).filter (fun d => d.file = t.path ∧ d.path = reference) =
      (undefinedValue t reference (s.missingIn t reference)).map
        fun f => { f with rule := Rule.undefinedTemplateValue.id } := by
  rw [Rule.check, List.filter_map]
  exact congrArg _ (filter_undefinedValues h ht hreference)

end LayerLint.TemplateCheck

namespace LayerLint.Rule

open Repository Survey TemplateCheck

/-- A reference is missing in exactly the installations that it is lacking in: where an app has a
template that brings its owner in, no layer gives leaves for it, and it is not left to a patch. For
each reference that is missing somewhere one error is reported, which names these installations in
ascending order, and nothing else is reported. -/
theorem a_missing_reference_is_reported_once_with_the_installations_that_lack_it {σ : Type}
    [FileStore σ] {store : σ} {vocabulary : Template.Vocabulary} {s : Survey}
    (h : Survey.load store vocabulary = .ok s) :
    (∀ owner ∈ s.repository.templates, ∀ reference ∈ owner.reads.keys,
      (∀ name, name ∈ s.missingIn owner reference ↔
        ∃ i, (name, i) ∈ s.repository.installations.entries ∧ ∃ app ∈ s.repository.apps,
          ∃ family t, s.repository.HasTemplate i app family t ∧ s.repository.BringsIn t owner ∧
            (∀ l ∈ s.repository.layersOf i family, l.resolve reference = []) ∧
              ¬s.repository.LeftToPatch i app family t reference) ∧
      (s.missingIn owner reference).Pairwise (· < ·) ∧
      (undefinedTemplateValue.check s).filter
          (fun d => d.file = owner.path ∧ d.path = reference) =
        if s.missingIn owner reference = [] then []
        else
          [{ severity := .error
             file := owner.path
             path := reference
             message := "is undefined for installation(s): " ++
               ", ".intercalate (s.missingIn owner reference)
             hint := some (remedy owner.role)
             rule := "undefined-template-value" }]) ∧
    ∀ d ∈ undefinedTemplateValue.check s, ∃ owner ∈ s.repository.templates,
      ∃ reference ∈ owner.reads.keys, d.file = owner.path ∧ d.path = reference := by
  obtain ⟨hplaced, hs⟩ := placed_of_load h
  refine ⟨fun owner ho reference hreference => ⟨fun name => ?_, ?_, ?_⟩, fun d hd => ?_⟩
  · rw [hs]
    exact mem_missingIn_iff hplaced ho hreference
  · exact pairwise_missingIn s owner reference
  · rw [filter_check_undefinedTemplateValue hplaced ho hreference]
    cases s.missingIn owner reference with
    | nil => rfl
    | cons first rest => rfl
  · obtain ⟨f, hf, rfl⟩ := List.mem_map.1 hd
    have hf : f ∈ undefinedValues s := hf
    rw [undefinedValues_eq] at hf
    obtain ⟨owner, ho, hf⟩ := List.mem_flatMap.1 hf
    obtain ⟨reference, hreference, hf⟩ := List.mem_flatMap.1 hf
    exact ⟨owner, ho, reference, hreference, file_and_path_of_undefinedValue hf⟩

/-- In the small repository the value that is not there is missing in both installations. -/
theorem the_value_that_is_gone_is_reported_once_for_both_installations :
    ∃ s, Survey.load smallStore .standard = .ok s ∧
      ∃ owner ∈ s.repository.templates, "gone" ∈ owner.reads.keys ∧
        s.repository.Lacks owner "gone" "kvm" ∧
        (undefinedTemplateValue.check s).filter
            (fun d => d.file = owner.path ∧ d.path = "gone") =
          [{ severity := .error
             file := "default/apps/foo/configmap-values.yaml.template"
             path := "gone"
             message := "is undefined for installation(s): gauss, kvm"
             hint := some (remedy owner.role)
             rule := "undefined-template-value" }] := by
  obtain ⟨s, hload, _⟩ := exists_of_load_map survey_of_smallStore
  obtain ⟨owner, ho, hpath, hgone, hmissing⟩ := gone_in_smallStore hload
  obtain ⟨hlacks, _, hcheck⟩ :=
    (a_missing_reference_is_reported_once_with_the_installations_that_lack_it hload).1
      owner ho "gone" hgone
  refine ⟨s, hload, owner, ho, hgone, (hlacks "kvm").1 ?_, ?_⟩
  · rw [hmissing]
    decide
  · rw [hcheck, hmissing, hpath, if_neg (List.cons_ne_nil _ _)]
    rfl

end LayerLint.Rule
