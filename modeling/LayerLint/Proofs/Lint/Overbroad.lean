-- Values of the base that are given anew nearly everywhere. The layers that stand over a value are
-- counted, and the installations are counted; since each installation has one override, the two
-- numbers are equal exactly if every installation gives the value anew.
import LayerLint.Proofs.Lint.BaseReaders
import LayerLint.Proofs.Lint.Overshadow

namespace LayerLint

namespace Survey

open Repository

variable {s : Survey} {leaf : String}

/-! ## Counting what stands over a leaf -/

/-- As many layers stand over a leaf of the base as installations give it anew. -/
theorem length_layersOver_base (hleaf : leaf ∈ s.repository.base.values.keys) :
    (s.layersOver s.repository.base leaf).length =
      (s.repository.installations.entries.filter
        fun i => i.2.override.values.contains leaf).length := by
  have hbase := SortedMap.contains_iff_mem_keys.2 hleaf
  simp only [layersOver_base, hbase, Bool.true_and, List.filter_map, List.length_map]
  rfl

theorem length_layersOver_base_le (s : Survey) (leaf : String) :
    (s.layersOver s.repository.base leaf).length ≤ s.repository.installations.size := by
  rw [layersOver_base, SortedMap.size,
    ← List.length_map fun i : String × Installation => i.2.override]
  exact List.length_filter_le _ _

/-- The counts are equal if every installation gives the leaf anew. -/
theorem length_layersOver_base_eq_size_iff (hleaf : leaf ∈ s.repository.base.values.keys) :
    (s.layersOver s.repository.base leaf).length = s.repository.installations.size ↔
      ∀ i ∈ s.repository.installations.entries, leaf ∈ i.2.override.values.keys := by
  rw [length_layersOver_base hleaf, SortedMap.size, List.length_filter_eq_length_iff]
  exact forall₂_congr fun _ _ => SortedMap.contains_iff_mem_keys

end Survey

namespace LayerCheck

open Repository Survey

variable {s : Survey} {threshold : Binary64} {path : String} {f : Finding}

/-! ## What is found about a value -/

/-- How grave it is that some of all installations give a value anew. -/
def gravity (threshold : Binary64) (count total : Nat) : Option Severity :=
  if count = total then some .error
  else if threshold.atMost (share count total) then some .suggestion
  else none

variable {base : Layer} {count total : Nat}

theorem gravity_eq_error_iff (threshold : Binary64) :
    gravity threshold count total = some .error ↔ count = total := by
  unfold gravity
  split
  · rename_i hall
    simp [hall]
  · rename_i hsome
    split
    · simp [hsome]
    · simp [hsome]

theorem gravity_eq_suggestion_iff : gravity threshold count total = some .suggestion ↔
    count ≠ total ∧ threshold.atMost (share count total) = true := by
  unfold gravity
  split
  · rename_i hall
    simp [hall]
  · rename_i hsome
    split
    · rename_i hmost
      simp [hsome, hmost]
    · rename_i hleast
      simp [hleast]

/-- What is found about a value of the base that some of all installations give anew. -/
def overbroad (threshold : Binary64) (base : Layer) (path : String) (count total : Nat) :
    Option Finding :=
  (gravity threshold count total).map fun severity =>
    { severity := severity
      file := base.path
      path := path
      message := s!"is overshadowed by {count}/{total} installations"
      hint := some ("Consider removing it from " ++ base.path
        ++ " and setting it in the installations that need it.") }

/-- What is found names the value and the two numbers, and how grave it is. -/
theorem of_mem_overbroad (hf : f ∈ (overbroad threshold base path count total).toList) :
    f.file = base.path ∧ f.path = path ∧
      f.message = s!"is overshadowed by {count}/{total} installations" ∧
      gravity threshold count total = some f.severity := by
  obtain ⟨_, hgravity, rfl⟩ := Option.map_eq_some_iff.1 (Option.mem_toList.1 hf)
  exact ⟨rfl, rfl, rfl, hgravity⟩

theorem overshadowed_eq_nil (hfew : s.repository.installations.size < 2) :
    overshadowed threshold s = [] := by
  rw [overshadowed, if_pos hfew]

/-- With two installations or more every value of the base is looked at. -/
theorem overshadowed_eq (hmany : 2 ≤ s.repository.installations.size) :
    overshadowed threshold s = s.repository.base.values.keys.flatMap fun path =>
      (overbroad threshold s.repository.base path (s.layersOver s.repository.base path).length
        s.repository.installations.size).toList := by
  rw [overshadowed, if_neg (Nat.not_lt.2 hmany), ← List.filterMap_eq_flatMap_toList]
  rfl

/-- What is found at a path is what is found about the value there. -/
theorem filter_overshadowed (hmany : 2 ≤ s.repository.installations.size)
    (hpath : path ∈ s.repository.base.values.keys) :
    (overshadowed threshold s).filter (fun f => f.path = path) =
      (overbroad threshold s.repository.base path (s.layersOver s.repository.base path).length
        s.repository.installations.size).toList := by
  rw [overshadowed_eq hmany]
  exact Finding.filter_flatMap_path s.repository.base.values.nodup_keys hpath fun _ _ hf =>
    (of_mem_overbroad hf).2.1

/-- A value is an error if there are at least two installations and each gives it anew. -/
theorem exists_error_iff_overshadowed (threshold : Binary64)
    (hpath : path ∈ s.repository.base.values.keys) :
    (∃ f ∈ overshadowed threshold s, f.path = path ∧ f.severity = .error) ↔
      2 ≤ s.repository.installations.size ∧
        ∀ i ∈ s.repository.installations.entries, path ∈ i.2.override.values.keys := by
  rcases Nat.lt_or_ge s.repository.installations.size 2 with hfew | hmany
  · rw [overshadowed_eq_nil hfew]
    simp [Nat.not_le.2 hfew]
  · rw [← length_layersOver_base_eq_size_iff hpath, ← gravity_eq_error_iff threshold]
    constructor
    · rintro ⟨f, hf, hat, herror⟩
      have hfound : f ∈ (overshadowed threshold s).filter fun f => f.path = path :=
        List.mem_filter.2 ⟨hf, decide_eq_true hat⟩
      rw [filter_overshadowed hmany hpath] at hfound
      exact ⟨hmany, herror ▸ (of_mem_overbroad hfound).2.2.2⟩
    · rintro ⟨_, hgravity⟩
      obtain ⟨f, hf⟩ : ∃ f, f ∈ (overbroad threshold s.repository.base path
          (s.layersOver s.repository.base path).length s.repository.installations.size).toList := by
        rw [overbroad, hgravity]
        exact ⟨_, List.mem_singleton_self _⟩
      obtain ⟨_, hat, _, hseverity⟩ := of_mem_overbroad hf
      rw [← filter_overshadowed hmany hpath] at hf
      exact ⟨f, (List.mem_filter.1 hf).1, hat, Option.some.inj (hseverity.symm.trans hgravity)⟩

theorem length_filter_overshadowed_le (hpath : path ∈ s.repository.base.values.keys) :
    ((overshadowed threshold s).filter fun f => f.path = path).length ≤ 1 := by
  rcases Nat.lt_or_ge s.repository.installations.size 2 with hfew | hmany
  · rw [overshadowed_eq_nil hfew]
    exact Nat.zero_le _
  · rw [filter_overshadowed hmany hpath]
    exact Option.length_toList_le

/-- What is found is about a value of the base and gives the two numbers; where they differ, their
share has reached the threshold. -/
theorem of_mem_overshadowed (hf : f ∈ overshadowed threshold s) :
    2 ≤ s.repository.installations.size ∧ f.file = s.repository.base.path ∧
      f.path ∈ s.repository.base.values.keys ∧ ∃ count,
        count = (s.layersOver s.repository.base f.path).length ∧
        f.message =
          s!"is overshadowed by {count}/{s.repository.installations.size} installations" ∧
        (f.severity = .error ∧ count = s.repository.installations.size ∨
          f.severity = .suggestion ∧ count ≠ s.repository.installations.size ∧
            threshold.atMost (share count s.repository.installations.size) = true) := by
  rcases Nat.lt_or_ge s.repository.installations.size 2 with hfew | hmany
  · rw [overshadowed_eq_nil hfew] at hf
    exact absurd hf List.not_mem_nil
  · rw [overshadowed_eq hmany] at hf
    obtain ⟨path, hpath, hf⟩ := List.mem_flatMap.1 hf
    obtain ⟨hfile, rfl, hmessage, hgravity⟩ := of_mem_overbroad hf
    refine ⟨hmany, hfile, hpath, _, rfl, hmessage, ?_⟩
    cases hseverity : f.severity with
    | error => exact .inl ⟨rfl, (gravity_eq_error_iff threshold).1 (hseverity ▸ hgravity)⟩
    | suggestion => exact .inr ⟨rfl, gravity_eq_suggestion_iff.1 (hseverity ▸ hgravity)⟩

end LayerCheck

namespace Rule

open Repository Survey LayerCheck

/-- The layers over a value of the base are as many as the installations that give it anew, and no
more than there are installations. Whatever the threshold is, an error is reported for the value
exactly if there are at least two installations and all give it anew; nothing is reported twice, and
with fewer installations nothing at all, so that a share is always one of at least two. -/
theorem a_value_is_overbroad_if_every_installation_gives_it_anew {σ : Type} [FileStore σ]
    {store : σ} {vocabulary : Template.Vocabulary} {s : Survey}
    (h : Survey.load store vocabulary = .ok s) (threshold : Binary64) :
    (∀ path ∈ s.repository.base.values.keys,
      ((s.layersOver s.repository.base path).map fun layer => layer.path).Nodup ∧
      (s.layersOver s.repository.base path).length =
        (s.repository.installations.entries.filter
          fun i => i.2.override.values.contains path).length ∧
      (s.layersOver s.repository.base path).length ≤ s.repository.installations.size ∧
      ((∃ d ∈ (overshadowedConfigValue threshold).check s, d.path = path ∧ d.severity = .error) ↔
        2 ≤ s.repository.installations.size ∧
          ∀ i ∈ s.repository.installations.entries, path ∈ i.2.override.values.keys) ∧
      (((overshadowedConfigValue threshold).check s).filter fun d => d.path = path).length ≤ 1) ∧
    (∀ d ∈ (overshadowedConfigValue threshold).check s,
      2 ≤ s.repository.installations.size ∧ d.file = s.repository.base.path ∧
        d.path ∈ s.repository.base.values.keys ∧ ∃ count,
          count = (s.layersOver s.repository.base d.path).length ∧
          d.message =
            s!"is overshadowed by {count}/{s.repository.installations.size} installations" ∧
          (d.severity = .error ∧ count = s.repository.installations.size ∨
            d.severity = .suggestion ∧ count ≠ s.repository.installations.size ∧
              threshold.atMost (share count s.repository.installations.size) = true)) ∧
    (s.repository.installations.size < 2 → (overshadowedConfigValue threshold).check s = []) := by
  obtain ⟨hplaced, -⟩ := placed_of_load h
  refine ⟨fun path hpath => ⟨?_, ?_, ?_, ?_, ?_⟩, fun d hd => ?_, fun hfew => ?_⟩
  · exact nodup_layersOver_base hplaced path
  · exact length_layersOver_base hpath
  · exact length_layersOver_base_le s path
  · rw [← exists_error_iff_overshadowed threshold hpath]
    constructor
    · rintro ⟨d, hd, hat⟩
      obtain ⟨f, hf, rfl⟩ := List.mem_map.1 hd
      exact ⟨f, hf, hat⟩
    · rintro ⟨f, hf, hat⟩
      exact ⟨_, List.mem_map.2 ⟨f, hf, rfl⟩, hat⟩
  · rw [check, List.filter_map, List.length_map]
    exact length_filter_overshadowed_le hpath
  · obtain ⟨f, hf, rfl⟩ := List.mem_map.1 hd
    exact of_mem_overshadowed hf
  · exact congrArg (List.map _) (overshadowed_eq_nil hfew)

/-- In the shared repository both installations give the second value anew, and just one of them the
third. -/
theorem the_second_value_of_the_shared_store_is_overbroad :
    ∃ s, Survey.load sharedStore .standard = .ok s ∧
      (∃ d ∈ (overshadowedConfigValue (share 3 4)).check s, d.path = "b" ∧ d.severity = .error) ∧
      ¬∃ d ∈ (overshadowedConfigValue (share 3 4)).check s, d.path = "c" ∧ d.severity = .error := by
  obtain ⟨s, hload, hs⟩ := exists_of_load_map survey_of_sharedStore
  simp only [Prod.mk.injEq] at hs
  obtain ⟨_, _, hreaders, hoverrides⟩ := hs
  have hkeys : s.repository.base.values.keys = ["a", "b", "c"] := by
    have := congrArg (List.map Prod.fst) hreaders
    rwa [List.map_map, Function.comp_def, List.map_id'] at this
  have hsize : s.repository.installations.size = 2 := by
    have := congrArg List.length hoverrides
    rwa [List.length_map] at this
  obtain ⟨hvalues, _⟩ :=
    a_value_is_overbroad_if_every_installation_gives_it_anew hload (share 3 4)
  obtain ⟨_, _, _, hsecond, _⟩ := hvalues "b" (by rw [hkeys]; decide)
  obtain ⟨_, _, _, hthird, _⟩ := hvalues "c" (by rw [hkeys]; decide)
  refine ⟨s, hload, hsecond.2 ⟨Nat.le_of_eq hsize.symm, fun i hi => ?_⟩, fun hreported => ?_⟩
  · have hmem := List.mem_map_of_mem (f := fun i => i.2.override.values.keys) hi
    rw [hoverrides] at hmem
    revert hmem
    generalize i.2.override.values.keys = keys
    simp only [List.mem_cons, List.not_mem_nil, or_false]
    rintro (rfl | rfl)
    · decide
    · decide
  · obtain ⟨i, hi, hoverride⟩ :
        ∃ i ∈ s.repository.installations.entries, i.2.override.values.keys = ["b"] := by
      have hmem : ["b"] ∈ s.repository.installations.entries.map
          fun i => i.2.override.values.keys := by
        rw [hoverrides]
        decide
      exact List.mem_map.1 hmem
    have habsent := (hthird.1 hreported).2 i hi
    rw [hoverride] at habsent
    exact absurd habsent (by decide)

end Rule

end LayerLint
