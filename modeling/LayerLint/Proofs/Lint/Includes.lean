-- What it takes for no fragment to be reported as unused. The check asks for another template that
-- includes a fragment, and asks no further; so the fragments that no app needs may keep each other
-- in use, in a circle, and nothing else can.
import LayerLint.Lint.Rule
import LayerLint.Proofs.Repository.Isolation
import LayerLint.Proofs.Survey.Usage
import Mathlib.Data.Set.Finite.List

namespace LayerLint

namespace Repository

variable {r : Repository} {t : TemplateFile}

/-! ## The templates of apps -/

/-- The templates of apps: those that hold everywhere, and the patches of installations. -/
def appTemplates (r : Repository) : List TemplateFile :=
  r.defaults.entries.flatMap (fun a => a.2.toList) ++
    r.installations.entries.flatMap fun i => i.2.patches.entries.flatMap fun a => a.2.toList

theorem mem_templates_iff :
    t ∈ r.templates ↔ t ∈ r.appTemplates ∨ ∃ path, r.fragments.get? path = some t := by
  refine List.mem_append.trans (or_congr_right ?_)
  rw [List.mem_map]
  constructor
  · rintro ⟨e, he, rfl⟩
    exact ⟨e.1, SortedMap.get?_eq_some_iff.2 he⟩
  · rintro ⟨path, ht⟩
    exact ⟨(path, t), SortedMap.get?_eq_some_iff.1 ht, rfl⟩

theorem mem_templates_of_mem_appTemplates (ht : t ∈ r.appTemplates) : t ∈ r.templates :=
  mem_templates_iff.2 (.inl ht)

/-- If there is an installation, a template of an app is resolved in one. -/
theorem exists_hasTemplate_of_mem_appTemplates (ht : t ∈ r.appTemplates)
    (hinstallations : r.installations.entries ≠ []) :
    ∃ i ∈ r.installations.entries, ∃ app family, r.HasTemplate i.2 app family t := by
  rcases List.mem_append.1 ht with ht | ht
  · obtain ⟨e, he, ht⟩ := List.mem_flatMap.1 ht
    obtain ⟨family, ht⟩ := AppTemplates.mem_toList_iff.1 ht
    obtain ⟨i, hi⟩ := List.exists_mem_of_ne_nil _ hinstallations
    exact ⟨i, hi, e.1, family, .inr (get?_bind_of_mem he ht)⟩
  · obtain ⟨i, hi, ht⟩ := List.mem_flatMap.1 ht
    obtain ⟨e, he, ht⟩ := List.mem_flatMap.1 ht
    obtain ⟨family, ht⟩ := AppTemplates.mem_toList_iff.1 ht
    exact ⟨i, hi, e.1, family, .inl (get?_bind_of_mem he ht)⟩

/-- If there is an installation, every reference that a template of an app brings in is met. -/
theorem exists_encounter_of_bringsIn (h : Placed r) (ht : t ∈ r.appTemplates)
    (hinstallations : r.installations.entries ≠ []) {owner : TemplateFile}
    (howner : r.BringsIn t owner) {reference : String} (hreference : reference ∈ owner.reads.keys) :
    ∃ e ∈ r.encounters, e.source = t ∧ e.owner = owner ∧ e.reference = reference := by
  classical
  obtain ⟨⟨name, i⟩, hi, app, family, hhas⟩ :=
    exists_hasTemplate_of_mem_appTemplates ht hinstallations
  refine ⟨⟨name, app, family, t, owner, reference, outcomeOf family (r.layersOf i family)
    (decide (r.LeftToPatch i app family t reference)) reference⟩,
    (mem_encounters_iff h).2 ?_, rfl, rfl, rfl⟩
  exact ⟨i, hi, mem_apps_of_hasTemplate hi hhas, hhas, howner, hreference, _,
    decide_eq_true_iff, rfl⟩

/-! ## Circles of fragments -/

/-- Every fragment is included by another template. -/
def AllIncluded (r : Repository) : Prop :=
  ∀ path f, r.fragments.get? path = some f → ∃ t ∈ r.templates, t ≠ f ∧ path ∈ t.includes

/-- Two fragments that bring each other in. -/
structure Circle (r : Repository) (one other : TemplateFile) : Prop where
  fragments : (∃ path, r.fragments.get? path = some one) ∧
    ∃ path, r.fragments.get? path = some other
  differ : one ≠ other
  there : r.BringsIn one other
  back : r.BringsIn other one

/-- Brought in, and not the other way round. There are only so many templates, and so this cannot
be followed backwards for ever. -/
theorem wellFounded_bringsIn (r : Repository) :
    WellFounded fun t o : {t // t ∈ r.templates} => r.BringsIn t o ∧ ¬r.BringsIn o t := by
  have hfinite : Finite {t // t ∈ r.templates} := (List.finite_toSet r.templates).to_subtype
  have htrans : IsTrans _ fun t o : {t // t ∈ r.templates} => r.BringsIn t o ∧ ¬r.BringsIn o t :=
    ⟨fun a b c hab hbc => ⟨hab.1.trans hbc.1, fun hca => hbc.2 (hca.trans hab.1)⟩⟩
  have hirrefl : Std.Irrefl fun t o : {t // t ∈ r.templates} =>
      r.BringsIn t o ∧ ¬r.BringsIn o t :=
    ⟨fun a haa => haa.2 haa.1⟩
  exact Finite.wellFounded_of_trans_of_irrefl _

/-- Where every fragment is included by another template, the way back from a fragment ends at a
template of an app, or in a circle that no template of an app brings in. -/
theorem AllIncluded.appTemplate_or_circle (h : r.AllIncluded) {path : String} {f : TemplateFile}
    (hf : r.fragments.get? path = some f) :
    (∃ t ∈ r.appTemplates, r.BringsIn t f) ∨
      ∃ one other, r.Circle one other ∧ r.BringsIn one f ∧
        ∀ t ∈ r.appTemplates, ¬r.BringsIn t one := by
  suffices hall : ∀ o : {t // t ∈ r.templates}, (∃ t ∈ r.appTemplates, r.BringsIn t o) ∨
      ∃ one other, r.Circle one other ∧ r.BringsIn one o ∧
        ∀ t ∈ r.appTemplates, ¬r.BringsIn t one from hall ⟨f, mem_of_fragment hf⟩
  intro o
  induction o using (wellFounded_bringsIn r).induction with
  | _ o ih =>
    obtain ⟨o, ho⟩ := o
    by_cases happ : ∃ t ∈ r.appTemplates, r.BringsIn t o
    · exact .inl happ
    · have hnone : ∀ t ∈ r.appTemplates, ¬r.BringsIn t o := fun t ht hto => happ ⟨t, ht, hto⟩
      obtain ⟨path, hpath⟩ := (mem_templates_iff.1 ho).resolve_left fun ho => hnone o ho .self
      obtain ⟨before, hbefore, hne, hincludes⟩ := h path o hpath
      have hstep : r.BringsIn before o := .step .self hincludes hpath
      by_cases hback : r.BringsIn o before
      · obtain ⟨start, hstart⟩ := (mem_templates_iff.1 hbefore).resolve_left
          fun hbefore => hnone before hbefore hstep
        have hcircle : r.Circle o before :=
          ⟨⟨⟨path, hpath⟩, start, hstart⟩, hne.symm, hback, hstep⟩
        exact .inr ⟨o, before, hcircle, .self, hnone⟩
      · rcases ih ⟨before, hbefore⟩ ⟨hstep, hback⟩ with
          ⟨t, ht, hto⟩ | ⟨one, other, hcircle, hone, hout⟩
        · exact absurd (hto.trans hstep) (hnone t ht)
        · exact .inr ⟨one, other, hcircle, hone.trans hstep, hout⟩

end Repository

namespace TemplateCheck

open Repository

/-! ## Fragments that are reported -/

theorem mem_broughtIn_iff {s : Survey} {path : String} :
    path ∈ broughtIn s ↔ ∃ t ∈ s.repository.templates, path ∈ t.includes ∧ path ≠ t.path := by
  simp only [broughtIn, List.mem_flatMap, List.mem_filter, bne_iff_ne]

/-- No fragment is reported as unused if and only if every fragment is included by another
template. -/
theorem unusedFragments_eq_nil_iff {s : Survey} (h : Placed s.repository) :
    unusedFragments s = [] ↔ s.repository.AllIncluded := by
  simp only [unusedFragments, List.map_eq_nil_iff, List.filter_eq_nil_iff, Bool.not_eq_true',
    Bool.not_eq_false, List.contains_iff_mem, mem_broughtIn_iff, SortedMap.mem_keys_iff]
  constructor
  · rintro hused path f hf
    obtain ⟨t, ht, hincludes, hne⟩ := hused path ⟨f, hf⟩
    refine ⟨t, ht, ?_, hincludes⟩
    rintro rfl
    exact hne (h.path_of_fragment hf).symm
  · rintro hall path ⟨f, hf⟩
    obtain ⟨t, ht, hne, hincludes⟩ := hall path f hf
    refine ⟨t, ht, hincludes, ?_⟩
    rintro rfl
    exact hne (h.template_eq ht (mem_of_fragment hf) (h.path_of_fragment hf).symm)

end TemplateCheck

namespace Rule

open Repository Survey TemplateCheck

/-! ## Clean reports -/

/-- Two fragments include each other, and no other template includes one of them. One of them reads
a value that is nowhere. -/
def circleStore : MemoryStore :=
  MemoryStore.ofFiles
    [("default/config.yaml", "".toUTF8.toList),
     ("default/apps/foo/configmap-values.yaml.template", "".toUTF8.toList),
     ("installations/gauss/config.yaml.patch", "".toUTF8.toList),
     ("installations/gauss/secret.yaml", "".toUTF8.toList),
     ("include/left.yaml.template", "\x7b\x7b include \"right\" .gone \x7d\x7d".toUTF8.toList),
     ("include/right.yaml.template", "\x7b\x7b include \"left\" . \x7d\x7d".toUTF8.toList)]

/-- Nothing is reported about the fragments. The one that reads the value is in no closure of a
template of an app, and its reference is not met. -/
theorem left_in_circleStore : ∃ s ∈ (Survey.load circleStore .standard).toOption,
    missingInclude.check s = [] ∧ unusedInclude.check s = [] ∧
      s.repository.installations.entries ≠ [] ∧
      ∃ f ∈ s.repository.fragments.get? "include/left.yaml.template",
        (∀ t ∈ s.repository.appTemplates, f ∉ s.repository.closure t) ∧
          "gone" ∈ f.reads.keys ∧ ∀ e ∈ s.encounters, e.reference ≠ "gone" := by
  decide +kernel

/-- Nothing is reported about the fragments of the store, there is an installation, and yet a
fragment is in no closure of a template of an app, and what it reads is never looked up. -/
theorem a_fragment_that_no_app_brings_in_can_be_left_out_of_a_report :
    ∃ s, Survey.load circleStore .standard = .ok s ∧
      missingInclude.check s = [] ∧ unusedInclude.check s = [] ∧
      s.repository.installations.entries ≠ [] ∧
      ∃ path f, s.repository.fragments.get? path = some f ∧
        (∀ t ∈ s.repository.appTemplates, f ∉ s.repository.closure t) ∧
        ∃ reference ∈ f.reads.keys, ∀ e ∈ s.encounters, e.reference ≠ reference := by
  obtain ⟨s, hs, hmissing, hunused, hinstallations, f, hf, hout, hreads, hnone⟩ :=
    left_in_circleStore
  exact ⟨s, eq_ok_of_mem_toOption hs, hmissing, hunused, hinstallations, _, f, hf, hout, "gone",
    hreads, hnone⟩

/-- If no fragment is reported as unused, then a fragment is in the closure of a template of an app,
and what it reads is looked up if there is an installation; or two fragments that bring each other
in, and that no template of an app brings in, bring it in. -/
theorem a_fragment_that_is_not_reported_is_brought_in_by_an_app_or_by_a_circle {σ : Type}
    [FileStore σ] {store : σ} {vocabulary : Template.Vocabulary} {s : Survey}
    (h : Survey.load store vocabulary = .ok s) (hclean : unusedInclude.check s = [])
    {path : String} {f : TemplateFile} (hf : s.repository.fragments.get? path = some f) :
    (∃ t ∈ s.repository.appTemplates, f ∈ s.repository.closure t ∧
      (s.repository.installations.entries ≠ [] → ∀ reference ∈ f.reads.keys,
        ∃ e ∈ s.encounters, e.source = t ∧ e.owner = f ∧ e.reference = reference)) ∨
      ∃ one other, s.repository.Circle one other ∧ f ∈ s.repository.closure one ∧
        ∀ t ∈ s.repository.appTemplates, one ∉ s.repository.closure t := by
  obtain ⟨hplaced, hs⟩ := placed_of_load h
  have hall := (unusedFragments_eq_nil_iff hplaced).1 (List.map_eq_nil_iff.1 hclean)
  rcases hall.appTemplate_or_circle hf with ⟨t, ht, htf⟩ | ⟨one, other, hcircle, hone, hout⟩
  · refine .inl ⟨t, ht, ?_, fun hinstallations reference hreference => ?_⟩
    · exact (mem_closure_iff hplaced (mem_templates_of_mem_appTemplates ht)).2 htf
    · rw [hs]
      exact exists_encounter_of_bringsIn hplaced ht hinstallations htf hreference
  · obtain ⟨start, hstart⟩ := hcircle.fragments.1
    refine .inr ⟨one, other, hcircle, ?_, fun t ht hmem => hout t ht ?_⟩
    · exact (mem_closure_iff hplaced (mem_of_fragment hstart)).2 hone
    · exact (mem_closure_iff hplaced (mem_templates_of_mem_appTemplates ht)).1 hmem

/-- The fragment that no app brings in is brought in by a circle. -/
theorem the_fragment_that_is_left_out_is_brought_in_by_a_circle :
    ∃ s, Survey.load circleStore .standard = .ok s ∧ unusedInclude.check s = [] ∧
      ∃ f, s.repository.fragments.get? "include/left.yaml.template" = some f ∧
        ∃ one other, s.repository.Circle one other ∧ f ∈ s.repository.closure one ∧
          ∀ t ∈ s.repository.appTemplates, one ∉ s.repository.closure t := by
  obtain ⟨s, hs, _, hunused, _, f, hf, hout, _⟩ := left_in_circleStore
  have hload := eq_ok_of_mem_toOption hs
  refine ⟨s, hload, hunused, f, hf, ?_⟩
  exact (a_fragment_that_is_not_reported_is_brought_in_by_an_app_or_by_a_circle hload hunused
    hf).resolve_left fun ⟨t, ht, hmem, _⟩ => hout t ht hmem

end Rule

end LayerLint
