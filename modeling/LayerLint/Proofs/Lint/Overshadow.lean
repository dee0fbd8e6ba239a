-- What stands over the base, and which of it changes nothing. An override stands over each path
-- that it shares with the base; where the two values are equal as well, it is reported once.
import LayerLint.Lint.Rule
import LayerLint.Proofs.Lint.Finding
import LayerLint.Proofs.Survey.Usage

namespace LayerLint

namespace Survey

open Repository

variable {s : Survey}

/-! ## Layers that stand over a leaf -/

/-- No two of the layers that stand over a leaf have one path. -/
theorem nodup_layersOver_base (h : Placed s.repository) (leaf : String) :
    ((s.layersOver s.repository.base leaf).map fun layer => layer.path).Nodup := by
  rw [layersOver_base]
  refine List.Nodup.sublist (List.Sublist.map _ List.filter_sublist) ?_
  rw [List.map_map]
  exact h.nodup_override_paths

theorem mem_overshadows_iff {r : Repository} {o : Overshadow} :
    o ∈ r.overshadows ↔
      o.below = r.base ∧ (∃ i ∈ r.installations.entries, o.above = i.2.override) ∧
        o.leaf ∈ r.base.values.keys ∧ o.leaf ∈ o.above.values.keys := by
  unfold overshadows
  simp only [List.mem_flatMap, List.mem_map, List.mem_filter, SortedMap.contains_iff_mem_keys]
  constructor
  · rintro ⟨i, hi, leaf, ⟨habove, hbase⟩, rfl⟩
    exact ⟨rfl, ⟨i, hi, rfl⟩, hbase, habove⟩
  · obtain ⟨below, leaf, above⟩ := o
    rintro ⟨rfl, ⟨i, hi, rfl⟩, hbase, habove⟩
    exact ⟨i, hi, leaf, ⟨habove, hbase⟩, rfl⟩

/-- Over a layer at another path than that of the base nothing stands. -/
theorem layersOver_eq_nil {layer : Layer} (h : layer.path ≠ s.repository.base.path)
    (leaf : String) : s.layersOver layer leaf = [] := by
  refine List.map_eq_nil_iff.2 (List.filter_eq_nil_iff.2 fun o ho hpath => h ?_)
  obtain ⟨hbelow, _⟩ := mem_overshadows_iff.1 ho
  rw [Bool.and_eq_true, beq_iff_eq, hbelow] at hpath
  exact hpath.1.symm

end Survey

namespace LayerCheck

open Repository Survey

variable {s : Survey} {path : String} {value : Value}

/-! ## Values that are given twice -/

/-- What is found about a value of the base that a layer gives again. -/
def duplicate (base layer : Layer) (path : String) (value : Value) : List Finding :=
  if layer.values.get? path = some value then
    [{ severity := .error
       file := layer.path
       path := path
       message := "is a duplicate of the same path in " ++ base.path
       hint := some "Remove it from the override; the base value already applies." }]
  else []

theorem of_mem_duplicate {base layer : Layer} {f : Finding}
    (hf : f ∈ duplicate base layer path value) :
    f.file = layer.path ∧ f.path = path ∧ layer.values.get? path = some value := by
  unfold duplicate at hf
  split at hf
  · rename_i hsame
    cases List.mem_singleton.1 hf
    exact ⟨rfl, rfl, hsame⟩
  · exact absurd hf List.not_mem_nil

/-- For each value of the base every override is asked whether it gives it again. -/
theorem duplicates_eq (s : Survey) :
    duplicates s = s.repository.base.values.entries.flatMap fun e =>
      s.repository.installations.entries.flatMap fun i =>
        duplicate s.repository.base i.2.override e.1 e.2 := by
  unfold duplicates
  refine List.flatMap_congr fun ⟨path, value⟩ he => ?_
  have hbase : s.repository.base.values.contains path = true :=
    Option.isSome_iff_exists.2 ⟨value, SortedMap.get?_eq_some_iff.2 he⟩
  dsimp only
  rw [layersOver_base, List.filter_filter, hbase]
  induction s.repository.installations.entries with
  | nil => rfl
  | cons i rest ih =>
    rw [List.map_cons, List.flatMap_cons, ← ih, List.filter_cons, duplicate]
    by_cases hsame : i.2.override.values.get? path = some value
    · simp [hsame, SortedMap.contains]
    · simp [hsame]

/-- What is found at a path of an override is what is found about the value that the base gives to
the path. -/
theorem filter_duplicates (h : Placed s.repository) {name : String} {i : Installation}
    (hi : (name, i) ∈ s.repository.installations.entries)
    (hbase : s.repository.base.values.get? path = some value) :
    (duplicates s).filter (fun f => f.file = i.override.path ∧ f.path = path) =
      duplicate s.repository.base i.override path value := by
  rw [duplicates_eq, List.filter_flatMap,
    flatMap_eq_of_nodup s.repository.base.values.nodup_entries
      (SortedMap.get?_eq_some_iff.1 hbase),
    List.filter_flatMap, flatMap_eq_of_nodup s.repository.installations.nodup_entries hi]
  · refine List.filter_eq_self.2 fun f hf => ?_
    obtain ⟨hfile, hpath, _⟩ := of_mem_duplicate hf
    simp [hfile, hpath]
  · rintro ⟨other, j⟩ hj hne
    refine List.filter_eq_nil_iff.2 fun f hf => ?_
    obtain ⟨hfile, _⟩ := of_mem_duplicate hf
    have hpath : j.override.path ≠ i.override.path :=
      fun heq => hne (h.entry_eq_of_override_path hj hi heq)
    simp [hfile, hpath]
  · rintro ⟨other, v⟩ he hne
    refine List.filter_eq_nil_iff.2 fun f hf => ?_
    obtain ⟨j, _, hf⟩ := List.mem_flatMap.1 hf
    obtain ⟨_, hpath, _⟩ := of_mem_duplicate hf
    have hother : other ≠ path := by
      rintro rfl
      exact hne (congrArg _ (SortedMap.entry_eq he (SortedMap.get?_eq_some_iff.1 hbase)))
    simp [hpath, hother]

/-- A duplicate is a value of an override that the base gives as well. -/
theorem of_mem_duplicates {f : Finding} (hf : f ∈ duplicates s) :
    ∃ i ∈ s.repository.installations.entries, ∃ value, f.file = i.2.override.path ∧
      s.repository.base.values.get? f.path = some value ∧
        i.2.override.values.get? f.path = some value := by
  rw [duplicates_eq] at hf
  obtain ⟨⟨path, value⟩, he, hf⟩ := List.mem_flatMap.1 hf
  obtain ⟨i, hi, hf⟩ := List.mem_flatMap.1 hf
  obtain ⟨hfile, hpath, hsame⟩ := of_mem_duplicate hf
  rw [hpath]
  exact ⟨i, hi, value, hfile, SortedMap.get?_eq_some_iff.2 he, hsame⟩

end LayerCheck

namespace Rule

open Repository Survey LayerCheck

/-- Over a leaf of the base stand exactly the overrides that give it anew, one for each
installation, and over overrides and secret layers nothing stands. Where an installation gives a leaf
of the base anew with an equal value one error is reported, and no other duplicate is. -/
theorem the_overrides_that_share_a_leaf_stand_over_it_and_equal_values_are_reported_once {σ : Type}
    [FileStore σ] {store : σ} {vocabulary : Template.Vocabulary} {s : Survey}
    (h : Survey.load store vocabulary = .ok s) :
    (∀ leaf ∈ s.repository.base.values.keys,
      (∀ layer, layer ∈ s.layersOver s.repository.base leaf ↔
        ∃ i ∈ s.repository.installations.entries,
          layer = i.2.override ∧ leaf ∈ i.2.override.values.keys) ∧
      ((s.layersOver s.repository.base leaf).map fun layer => layer.path).Nodup) ∧
    (∀ i ∈ s.repository.installations.entries,
      i.2.override.path = (LayoutFile.configPatch i.1).path ∧
      i.2.secret.path = (LayoutFile.secret i.1).path ∧
      ∀ leaf, s.layersOver i.2.override leaf = [] ∧ s.layersOver i.2.secret leaf = []) ∧
    (∀ i ∈ s.repository.installations.entries, ∀ path value,
      s.repository.base.values.get? path = some value →
      i.2.override.values.get? path = some value →
        (duplicateConfigValue.check s).filter
            (fun d => d.file = i.2.override.path ∧ d.path = path) =
          [{ severity := .error
             file := i.2.override.path
             path := path
             message := "is a duplicate of the same path in default/config.yaml"
             hint := some "Remove it from the override; the base value already applies."
             rule := "duplicate-config-value" }]) ∧
    ∀ d ∈ duplicateConfigValue.check s, ∃ i ∈ s.repository.installations.entries, ∃ value,
      d.file = i.2.override.path ∧ s.repository.base.values.get? d.path = some value ∧
        i.2.override.values.get? d.path = some value := by
  obtain ⟨hplaced, -⟩ := placed_of_load h
  obtain ⟨-, hbase⟩ := hplaced.layer .base _ rfl
  refine ⟨fun leaf hleaf => ⟨fun layer => ?_, ?_⟩, fun i hi => ?_, fun i hi path value hvalue hsame =>
    ?_, fun d hd => ?_⟩
  · rw [mem_layersOver_base_iff]
    constructor
    · rintro ⟨⟨i, hi, rfl⟩, _, habove⟩
      exact ⟨i, hi, rfl, habove⟩
    · rintro ⟨i, hi, rfl, habove⟩
      exact ⟨⟨i, hi, rfl⟩, hleaf, habove⟩
  · exact nodup_layersOver_base hplaced leaf
  · have hover := layer?_override hi
    have hsecret := layer?_secret hi
    refine ⟨(hplaced.layer _ _ hover).2, (hplaced.layer _ _ hsecret).2, fun leaf => ⟨?_, ?_⟩⟩
    · refine layersOver_eq_nil (fun heq => ?_) leaf
      cases (hplaced.layer?_eq hover (q := .base) rfl heq).1
    · refine layersOver_eq_nil (fun heq => ?_) leaf
      cases (hplaced.layer?_eq hsecret (q := .base) rfl heq).1
  · rw [check, List.filter_map]
    have hfound := filter_duplicates hplaced hi hvalue
    rw [duplicate, if_pos hsame, hbase] at hfound
    exact congrArg (List.map _) hfound
  · obtain ⟨f, hf, rfl⟩ := List.mem_map.1 hd
    exact of_mem_duplicates hf

/-- In the small repository one installation gives two leaves of the base anew, and one of them with
the value of the base. -/
theorem the_small_store_gives_one_value_of_the_base_again :
    ∃ s, Survey.load smallStore .standard = .ok s ∧
      (∃ layer ∈ s.layersOver s.repository.base "b",
        layer.path = "installations/gauss/config.yaml.patch" ∧ s.layersOver layer "b" = []) ∧
      (duplicateConfigValue.check s).filter
          (fun d => d.file = "installations/gauss/config.yaml.patch" ∧ d.path = "a") =
        [{ severity := .error
           file := "installations/gauss/config.yaml.patch"
           path := "a"
           message := "is a duplicate of the same path in default/config.yaml"
           hint := some "Remove it from the override; the base value already applies."
           rule := "duplicate-config-value" }] := by
  obtain ⟨hover, hnone, hreport, _⟩ :=
    the_overrides_that_share_a_leaf_stand_over_it_and_equal_values_are_reported_once
      load_smallStore
  obtain ⟨i, hi, hpath⟩ : ∃ i ∈ smallRepository.installations.entries,
      i.2.override.path = "installations/gauss/config.yaml.patch" ∧
        "b" ∈ i.2.override.values.keys ∧ i.2.override.values.get? "a" = some (.integer 1) := by
    decide
  refine ⟨_, load_smallStore, ⟨i.2.override, ?_, hpath.1, ((hnone i hi).2.2 "b").1⟩, ?_⟩
  · exact ((hover "b" (by decide)).1 _).2 ⟨i, hi, rfl, hpath.2.1⟩
  · rw [← hpath.1]
    exact hreport i hi "a" (.integer 1) (by decide) hpath.2.2

end Rule

end LayerLint
