-- Who reads a value of the base, across layers. Where an override gives the value anew, the apps
-- behind the override count for the base as well. The apps behind all these layers are counted
-- together and each of them once, and what is reported hangs on whether there is none, one or more.
import LayerLint.Lint.Rule
import LayerLint.Proofs.Lint.Finding
import LayerLint.Proofs.Repository.Resolve
import LayerLint.Proofs.Survey.Usage

namespace LayerLint

namespace Repository

/-! ## Apps that read a value of the base -/

/-- An app reads a value of the base: in some installation one of its config templates brings a
reference in, and of the override and the base the first that has leaves for the reference has the
value among them. -/
def ReadsBase (r : Repository) (app leaf : String) : Prop :=
  ∃ i ∈ r.installations.entries, ∃ t, r.HasTemplate i.2 app .config t ∧
    ∃ owner, r.BringsIn t owner ∧ ∃ reference ∈ owner.reads.keys, ∃ layer,
      (layer = r.base ∨ layer = i.2.override) ∧
        GivesFirst (r.layersOf i.2 .config) reference layer ∧ leaf ∈ layer.resolve reference

variable {r : Repository} {leaf : String} {layer : Layer}

/-- The base and what stands over it are not read in the secret family. -/
theorem Placed.not_mem_secretLayers (h : Placed r) {name : String} {i : Installation}
    (hi : (name, i) ∈ r.installations.entries)
    (hl : layer ∈ r.base :: (Survey.ofRepository r).layersOver r.base leaf) :
    layer ∉ r.layersOf i .secret := by
  intro hmem
  cases List.mem_singleton.1 hmem
  rcases List.mem_cons.1 hl with hbase | habove
  · cases h.layerPlace_eq (p := .base) (congrArg some hbase.symm) (layer?_secret hi)
  · obtain ⟨⟨⟨other, j⟩, hj, heq⟩, _⟩ := Survey.mem_layersOver_base_iff.1 habove
    cases h.layerPlace_eq (heq ▸ layer?_override hj) (layer?_secret hi)

end Repository

namespace LayerCheck

open Repository Survey

variable {r : Repository} {s : Survey} {app leaf path : String}

/-- The apps that count are those behind the templates that take the value from the base or from a
layer over it. -/
theorem mem_readersOfBase_iff_takes (h : Placed r) :
    app ∈ readersOfBase (ofRepository r) leaf ↔
      ∃ layer ∈ r.base :: (ofRepository r).layersOver r.base leaf, ∃ t,
        r.Takes t layer leaf ∧ t.app = some app := by
  unfold readersOfBase
  rw [mem_consumers_iff]
  constructor
  · rintro ⟨t, ht, happ⟩
    obtain ⟨layer, hl, ht⟩ := List.mem_flatMap.1 ht
    exact ⟨layer, hl, t, (mem_usedBy_iff h (mem_layers_of_mem_stack hl)).1 ht, happ⟩
  · rintro ⟨layer, hl, t, ht, happ⟩
    have hused := (mem_usedBy_iff h (mem_layers_of_mem_stack hl)).2 ht
    exact ⟨t, List.mem_flatMap.2 ⟨layer, hl, hused⟩, happ⟩

/-- The apps that count are those that read the value in some installation. -/
theorem mem_readersOfBase_iff (h : Placed r) (hleaf : leaf ∈ r.base.values.keys) :
    app ∈ readersOfBase (ofRepository r) leaf ↔ r.ReadsBase app leaf := by
  rw [mem_readersOfBase_iff_takes h]
  constructor
  · rintro ⟨layer, hl, t, ⟨⟨name, i⟩, hi, other, _, family, hhas, owner, howner, reference,
      hreference, hgives, hmem, _⟩, happ⟩
    cases happ.symm.trans (app_of_hasTemplate h hi hhas)
    cases family with
    | config =>
      have hlayer : layer = r.base ∨ layer = i.override := by
        simpa [layersOf, or_comm] using hgives.mem
      exact ⟨(name, i), hi, t, hhas, owner, howner, reference, hreference, layer, hlayer, hgives,
        hmem⟩
    | secret => exact absurd hgives.mem (h.not_mem_secretLayers hi hl)
  · rintro ⟨⟨name, i⟩, hi, t, hhas, owner, howner, reference, hreference, layer, hlayer, hgives,
      hmem⟩
    have htakes : r.Takes t layer leaf :=
      ⟨(name, i), hi, app, mem_apps_of_hasTemplate hi hhas, .config, hhas, owner, howner, reference,
        hreference, hgives, hmem, by simp⟩
    refine ⟨layer, ?_, t, htakes, app_of_hasTemplate h hi hhas⟩
    rcases hlayer with rfl | rfl
    · exact List.mem_cons_self
    · have habove : leaf ∈ i.override.values.keys := (Layer.mem_resolve_iff.1 hmem).1
      exact List.mem_cons_of_mem _
        (mem_layersOver_base_iff.2 ⟨⟨(name, i), hi, rfl⟩, hleaf, habove⟩)

theorem mem_readersOfBase_iff_of_load {σ : Type} [FileStore σ] {store : σ}
    {vocabulary : Template.Vocabulary} (h : Survey.load store vocabulary = .ok s)
    (hpath : path ∈ s.repository.base.values.keys) :
    app ∈ readersOfBase s path ↔ s.repository.ReadsBase app path := by
  obtain ⟨hplaced, hs⟩ := placed_of_load h
  rw [hs]
  exact mem_readersOfBase_iff hplaced hpath

theorem nodup_readersOfBase (s : Survey) (leaf : String) : (readersOfBase s leaf).Nodup :=
  nodup_distinct _

/-! ## What is found about a value -/

/-- What is found about a value of the base that some apps read. -/
def usageOfBase (base : Layer) (path : String) : List String → List Finding
  | [] =>
    [{ severity := .error
       file := base.path
       path := path
       message := "is unused"
       hint := some "No app template reads it; consider removing it." }]
  | [app] =>
    [{ severity := .suggestion
       file := base.path
       path := path
       message := "is used by just one app: " ++ app
       hint := some ("Consider moving it into " ++ (LayoutFile.appTemplate app).path ++ ".") }]
  | _ :: _ :: _ => []

theorem path_of_mem_usageOfBase {base : Layer} {apps : List String} {f : Finding}
    (hf : f ∈ usageOfBase base path apps) : f.path = path := by
  unfold usageOfBase at hf
  split at hf
  · cases List.mem_singleton.1 hf
    rfl
  · cases List.mem_singleton.1 hf
    rfl
  · exact absurd hf List.not_mem_nil

/-- If there is something that could be read and someone to read it, every value of the base is
looked at. -/
theorem unusedInBase_eq (hinstallations : s.repository.installations.entries ≠ [])
    (happs : s.repository.apps ≠ []) :
    unusedInBase s = s.repository.base.values.keys.flatMap fun path =>
      usageOfBase s.repository.base path (readersOfBase s path) := by
  have hsize : s.repository.installations.size ≠ 0 := mt List.length_eq_zero_iff.1 hinstallations
  rw [unusedInBase, if_neg (by simp [hsize, happs])]
  rfl

/-- What is found at a path is what is found about the value there. -/
theorem filter_unusedInBase (hinstallations : s.repository.installations.entries ≠ [])
    (happs : s.repository.apps ≠ []) (hpath : path ∈ s.repository.base.values.keys) :
    (unusedInBase s).filter (fun f => f.path = path) =
      usageOfBase s.repository.base path (readersOfBase s path) := by
  rw [unusedInBase_eq hinstallations happs]
  exact Finding.filter_flatMap_path s.repository.base.values.nodup_keys hpath fun _ _ hf =>
    path_of_mem_usageOfBase hf

end LayerCheck

/-! ## One, none, or more -/

namespace Rule

open Repository Survey LayerCheck

/-- What is reported about a value of the base hangs on the apps that read it in some installation,
be it from the base or from an override: one error if there is no such app, one suggestion that
names the app if there is just one, and nothing if there are more. -/
theorem a_value_of_the_base_is_judged_by_the_apps_that_read_it {σ : Type} [FileStore σ] {store : σ}
    {vocabulary : Template.Vocabulary} {s : Survey} (h : Survey.load store vocabulary = .ok s)
    (hinstallations : s.repository.installations.entries ≠ []) (happs : s.repository.apps ≠ [])
    {path : String} (hpath : path ∈ s.repository.base.values.keys) :
    ((∀ app, ¬s.repository.ReadsBase app path) →
      (unusedConfigValue.check s).filter (fun d => d.path = path) =
        [{ severity := .error
           file := s.repository.base.path
           path := path
           message := "is unused"
           hint := some "No app template reads it; consider removing it."
           rule := "unused-config-value" }]) ∧
    (∀ app, (∀ other, s.repository.ReadsBase other path ↔ other = app) →
      (unusedConfigValue.check s).filter (fun d => d.path = path) =
        [{ severity := .suggestion
           file := s.repository.base.path
           path := path
           message := "is used by just one app: " ++ app
           hint := some ("Consider moving it into " ++ (LayoutFile.appTemplate app).path ++ ".")
           rule := "unused-config-value" }]) ∧
    ∀ app other, app ≠ other → s.repository.ReadsBase app path → s.repository.ReadsBase other path →
      (unusedConfigValue.check s).filter (fun d => d.path = path) = [] := by
  have hreads : ∀ app, app ∈ readersOfBase s path ↔ s.repository.ReadsBase app path :=
    fun _ => mem_readersOfBase_iff_of_load h hpath
  have hcheck : (unusedConfigValue.check s).filter (fun d => d.path = path) =
      (usageOfBase s.repository.base path (readersOfBase s path)).map
        fun f => { f with rule := unusedConfigValue.id } := by
    rw [check, List.filter_map]
    exact congrArg _ (filter_unusedInBase hinstallations happs hpath)
  refine ⟨fun hnone => ?_, fun app hone => ?_, fun app other hne happ hother => ?_⟩
  · have hnil : readersOfBase s path = [] :=
      List.eq_nil_iff_forall_not_mem.2 fun app happ => hnone app ((hreads app).1 happ)
    rw [hcheck, hnil]
    rfl
  · have hsingle : readersOfBase s path = [app] := by
      refine List.perm_singleton.1 ((List.perm_ext_iff_of_nodup (nodup_readersOfBase s path)
        (List.pairwise_singleton _ app)).2 fun other => ?_)
      rw [hreads, hone, List.mem_singleton]
    rw [hcheck, hsingle]
    rfl
  · rw [← hreads] at happ hother
    rw [hcheck]
    match hreaders : readersOfBase s path with
    | [] => exact absurd (hreaders ▸ happ) List.not_mem_nil
    | [reader] =>
      rw [hreaders, List.mem_singleton] at happ hother
      exact absurd (happ.trans hother.symm) hne
    | _ :: _ :: _ => rfl

/-- Two installations that give two values of the base anew, an app that both have, and one that one
of them patches. -/
def sharedStore : MemoryStore :=
  MemoryStore.ofFiles
    [("default/config.yaml", "a: 1\nb: 2\nc: 3\n".toUTF8.toList),
     ("default/apps/foo/configmap-values.yaml.template", "a: \x7b\x7b .a \x7d\x7d\n".toUTF8.toList),
     ("installations/gauss/apps/bar/configmap-values.yaml.patch",
      "a: \x7b\x7b .a \x7d\x7d\nc: \x7b\x7b .c \x7d\x7d\n".toUTF8.toList),
     ("installations/gauss/config.yaml.patch", "b: 4\nc: 5\n".toUTF8.toList),
     ("installations/gauss/secret.yaml", "".toUTF8.toList),
     ("installations/kvm/config.yaml.patch", "b: 6\n".toUTF8.toList),
     ("installations/kvm/secret.yaml", "".toUTF8.toList)]

/-- The apps, those that read each value of the base, and what the installations give anew. -/
theorem survey_of_sharedStore : (Survey.load sharedStore .standard).toOption.map
    (fun s => (s.repository.base.path, s.repository.apps,
      s.repository.base.values.keys.map fun path => (path, readersOfBase s path),
      s.repository.installations.entries.map fun i => i.2.override.values.keys)) =
    some ("default/config.yaml", ["bar", "foo"],
      [("a", ["bar", "foo"]), ("b", []), ("c", ["bar"])], [["b", "c"], ["b"]]) := by
  decide +kernel

/-- Nobody reads the second value; the third is read only by the patch of one installation, from its
override, and the first by two apps. -/
theorem the_values_of_the_shared_store_are_judged_by_their_readers :
    ∃ s, Survey.load sharedStore .standard = .ok s ∧
      (unusedConfigValue.check s).filter (fun d => d.path = "a") = [] ∧
      (unusedConfigValue.check s).filter (fun d => d.path = "b") =
        [{ severity := .error
           file := "default/config.yaml"
           path := "b"
           message := "is unused"
           hint := some "No app template reads it; consider removing it."
           rule := "unused-config-value" }] ∧
      (unusedConfigValue.check s).filter (fun d => d.path = "c") =
        [{ severity := .suggestion
           file := "default/config.yaml"
           path := "c"
           message := "is used by just one app: bar"
           hint := some
             "Consider moving it into default/apps/bar/configmap-values.yaml.template."
           rule := "unused-config-value" }] := by
  obtain ⟨s, hload, hs⟩ := exists_of_load_map survey_of_sharedStore
  simp only [Prod.mk.injEq] at hs
  obtain ⟨hbase, happs, hreaders, hoverrides⟩ := hs
  have hne : s.repository.installations.entries ≠ [] := by
    intro hnil
    rw [hnil] at hoverrides
    cases hoverrides
  have happs : s.repository.apps ≠ [] := by
    rw [happs]
    exact List.cons_ne_nil _ _
  have hread : ∀ path apps, (path, apps) ∈ [("a", ["bar", "foo"]), ("b", []), ("c", ["bar"])] →
      path ∈ s.repository.base.values.keys ∧
        ∀ app, s.repository.ReadsBase app path ↔ app ∈ apps := by
    intro path apps hmem
    rw [← hreaders] at hmem
    obtain ⟨key, hkey, heq⟩ := List.mem_map.1 hmem
    obtain ⟨rfl, rfl⟩ := Prod.mk.inj heq
    exact ⟨hkey, fun _ => (mem_readersOfBase_iff_of_load hload hkey).symm⟩
  obtain ⟨ha, hreadsA⟩ := hread "a" ["bar", "foo"] (by decide)
  obtain ⟨hb, hreadsB⟩ := hread "b" [] (by decide)
  obtain ⟨hc, hreadsC⟩ := hread "c" ["bar"] (by decide)
  obtain ⟨_, _, hmany⟩ :=
    a_value_of_the_base_is_judged_by_the_apps_that_read_it hload hne happs ha
  obtain ⟨hnone, _⟩ := a_value_of_the_base_is_judged_by_the_apps_that_read_it hload hne happs hb
  obtain ⟨_, hone, _⟩ :=
    a_value_of_the_base_is_judged_by_the_apps_that_read_it hload hne happs hc
  rw [hbase] at hnone hone
  refine ⟨s, hload, hmany "bar" "foo" (by decide) ?_ ?_, hnone fun app happ => ?_,
    hone "bar" fun app => ?_⟩
  · exact (hreadsA "bar").2 (by decide)
  · exact (hreadsA "foo").2 (by decide)
  · exact absurd ((hreadsB app).1 happ) List.not_mem_nil
  · rw [hreadsC, List.mem_singleton]

end Rule

end LayerLint
