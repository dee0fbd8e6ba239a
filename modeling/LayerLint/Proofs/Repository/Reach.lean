-- The walk over includes, fragment by fragment: it takes each fragment out of those that remain, so
-- that it meets none twice, and it goes on only where something that it has met leads. With what
-- the closure holds this makes the closure a listing of all that chains of includes lead to.
import LayerLint.FileStore.Memory
import LayerLint.Proofs.Repository.Closure
import LayerLint.Proofs.Repository.Load
import Mathlib.Data.List.Nodup
import Mathlib.Data.List.Perm.Subperm

namespace LayerLint.Repository

/-! ## Fragments by their paths -/

/-- Every fragment is kept by its own path. -/
def KeptByPath (fragments : SortedMap TemplateFile) : Prop :=
  ∀ path f, fragments.get? path = some f → f.path = path

theorem Placed.keptByPath {r : Repository} (h : Placed r) : KeptByPath r.fragments :=
  fun _ _ hf => h.path_of_fragment hf

theorem KeptByPath.erase {fragments : SortedMap TemplateFile} (h : KeptByPath fragments)
    (path : String) : KeptByPath (fragments.erase path) :=
  fun p f hf => h p f (SortedMap.get?_erase_eq_some_iff.1 hf).1

/-! ## What the walk meets -/

/-- The walk meets only fragments that remain. -/
theorem mem_remaining_of_mem_reach (remaining : SortedMap TemplateFile) (pending : List String) :
    ∀ f ∈ reach remaining pending, ∃ path, remaining.get? path = some f := by
  fun_induction reach remaining pending with
  | case1 => exact fun f hf => absurd hf List.not_mem_nil
  | case2 remaining path pending hnone ih => exact ih
  | case3 remaining path pending g hsome ih =>
    intro f hf
    rcases List.mem_cons.1 hf with rfl | hf
    · exact ⟨path, hsome⟩
    · obtain ⟨p, hp⟩ := ih f hf
      exact ⟨p, (SortedMap.get?_erase_eq_some_iff.1 hp).1⟩

/-- What stood at the path that is taken out is not met later. -/
theorem not_mem_reach_erase {remaining : SortedMap TemplateFile} (h : KeptByPath remaining)
    (f : TemplateFile) (pending : List String) :
    f ∉ reach (remaining.erase f.path) pending := by
  intro hf
  obtain ⟨path, hpath⟩ := mem_remaining_of_mem_reach _ _ f hf
  obtain ⟨hget, hne⟩ := SortedMap.get?_erase_eq_some_iff.1 hpath
  exact hne (h path f hget).symm

theorem nodup_reach (remaining : SortedMap TemplateFile) (pending : List String)
    (h : KeptByPath remaining) : (reach remaining pending).Nodup := by
  fun_induction reach remaining pending with
  | case1 => exact List.nodup_nil
  | case2 remaining path pending hnone ih => exact ih h
  | case3 remaining path pending g hsome ih =>
    -- The path that is taken out is the fragment's own, so nothing that is left is this fragment.
    have hpath : g.path = path := h path g hsome
    subst hpath
    exact List.nodup_cons.2 ⟨not_mem_reach_erase h g _, ih (h.erase g.path)⟩

/-- The walk meets a fragment at a path that it begins with, or at one that something which it has
met before includes. -/
theorem led_to_of_reach_eq (remaining : SortedMap TemplateFile) (pending : List String)
    (h : KeptByPath remaining) : ∀ before f after, reach remaining pending = before ++ f :: after →
      f.path ∈ pending ∨ ∃ owner ∈ before, f.path ∈ owner.includes := by
  fun_induction reach remaining pending with
  | case1 => exact fun before f after heq => absurd heq (by simp)
  | case2 remaining path pending hnone ih =>
    intro before f after heq
    exact (ih h before f after heq).imp_left (List.mem_cons_of_mem _)
  | case3 remaining path pending g hsome ih =>
    intro before f after heq
    cases before with
    | nil =>
      obtain ⟨rfl, _⟩ := List.cons.inj heq
      exact .inl (h path g hsome ▸ List.mem_cons_self)
    | cons first before =>
      obtain ⟨rfl, hrest⟩ := List.cons.inj heq
      rcases ih (h.erase path) before f after hrest with hpath | ⟨owner, howner, hpath⟩
      -- What is pending after a step was pending before it, or the fragment just met includes it.
      · rcases List.mem_append.1 hpath with hpath | hpath
        · exact .inl (List.mem_cons_of_mem _ hpath)
        · exact .inr ⟨g, List.mem_cons_self, hpath⟩
      · exact .inr ⟨owner, List.mem_cons_of_mem _ howner, hpath⟩

/-! ## Closures -/

section Closure

variable {r : Repository} {t : TemplateFile}

theorem nodup_closure (h : Placed r) (t : TemplateFile) : (r.closure t).Nodup :=
  List.nodup_cons.2 ⟨not_mem_reach_erase h.keptByPath t _,
    nodup_reach _ _ (h.keptByPath.erase t.path)⟩

/-- Besides the template itself there are at most all fragments in its closure. -/
theorem length_closure_le (h : Placed r) (t : TemplateFile) :
    (r.closure t).length ≤ r.fragments.entries.length + 1 := by
  have hsub : r.closure t ⊆ t :: r.fragments.entries.map (·.2) := by
    intro f hf
    rcases List.mem_cons.1 hf with rfl | hf
    · exact List.mem_cons_self
    · obtain ⟨path, hpath⟩ := mem_remaining_of_mem_reach _ _ f hf
      have hget := (SortedMap.get?_erase_eq_some_iff.1 hpath).1
      have hentry := SortedMap.get?_eq_some_iff.1 hget
      exact List.mem_cons_of_mem _ (List.mem_map_of_mem (f := (·.2)) hentry)
  have hle := (List.subperm_of_subset (nodup_closure h t) hsub).length_le
  rwa [List.length_cons, List.length_map] at hle

/-- Each template of a closure but the first is included by one in front of it. -/
theorem included_of_closure_eq (h : Placed r) {before after : List TemplateFile} {f : TemplateFile}
    (heq : r.closure t = before ++ f :: after) :
    before = [] ∨ ∃ owner ∈ before, f.path ∈ owner.includes := by
  cases before with
  | nil => exact .inl rfl
  | cons first before =>
    obtain ⟨rfl, hrest⟩ := List.cons.inj heq
    have hled := led_to_of_reach_eq _ _ (h.keptByPath.erase t.path) before f after hrest
    rcases hled with hpath | ⟨owner, howner, hpath⟩
    · exact .inr ⟨t, List.mem_cons_self, hpath⟩
    · exact .inr ⟨owner, List.mem_cons_of_mem _ howner, hpath⟩

end Closure

/-- However the includes of a repository lead into each other, the closure of a template begins with
it, holds no template twice, and holds just what chains of includes lead to; each template but the
first is included by one in front of it, and there is one at most for each fragment. -/
theorem a_closure_lists_what_chains_of_includes_lead_to_once {σ : Type} [FileStore σ] {store : σ}
    {vocabulary : Template.Vocabulary} {r : Repository} (h : load store vocabulary = .ok r)
    {t : TemplateFile} (ht : t ∈ r.templates) :
    (r.closure t).head? = some t ∧ (r.closure t).Nodup ∧
      (∀ o, o ∈ r.closure t ↔ r.BringsIn t o) ∧
      (∀ before f after, r.closure t = before ++ f :: after →
        before = [] ∨ ∃ owner ∈ before, f.path ∈ owner.includes) ∧
      (r.closure t).length ≤ r.fragments.entries.length + 1 := by
  have hplaced := placed_of_load h
  exact ⟨rfl, nodup_closure hplaced t, fun o => mem_closure_iff hplaced ht,
    fun before f after heq => included_of_closure_eq hplaced heq, length_closure_le hplaced t⟩

/-- A template includes two fragments that share a third, and one that is nowhere. The third leads
back to the first, and the second to itself; a fourth fragment is included by itself alone. -/
def tangledStore : MemoryStore :=
  MemoryStore.ofFiles
    [("default/config.yaml", "".toUTF8.toList),
     ("default/apps/foo/configmap-values.yaml.template",
      ("\x7b\x7b include \"left\" . \x7d\x7d\x7b\x7b include \"nowhere\" . \x7d\x7d" ++
        "\x7b\x7b include \"right\" . \x7d\x7d").toUTF8.toList),
     ("installations/gauss/config.yaml.patch", "".toUTF8.toList),
     ("installations/gauss/secret.yaml", "".toUTF8.toList),
     ("include/alone.yaml.template", "\x7b\x7b include \"alone\" . \x7d\x7d".toUTF8.toList),
     ("include/left.yaml.template", "\x7b\x7b include \"shared\" . \x7d\x7d".toUTF8.toList),
     ("include/right.yaml.template",
      ("\x7b\x7b include \"right\" . \x7d\x7d" ++
        "\x7b\x7b include \"shared\" . \x7d\x7d").toUTF8.toList),
     ("include/shared.yaml.template", "\x7b\x7b include \"left\" . \x7d\x7d".toUTF8.toList)]

/-- The one function that the tangle calls. -/
def includeAlone : Template.Vocabulary := Template.Vocabulary.empty.define "include" .include

theorem closure_in_tangledStore : ∃ r ∈ (load tangledStore includeAlone).toOption,
    ∃ t ∈ r.defaultTemplate? "foo" .config,
      (r.closure t).length = 4 ∧
        (∃ shared ∈ r.fragments.get? "include/shared.yaml.template", shared ∈ r.closure t) ∧
        ∃ alone ∈ r.fragments.get? "include/alone.yaml.template", alone ∉ r.closure t := by
  decide +kernel

/-- The walk comes to an end in the tangle: what the template leads to is listed once, and the
fragment that nothing else includes is not brought in. -/
theorem the_tangle_is_listed_once :
    ∃ r, load tangledStore includeAlone = .ok r ∧
      ∃ t, r.defaultTemplate? "foo" .config = some t ∧ (r.closure t).head? = some t ∧
        (r.closure t).Nodup ∧ (r.closure t).length = 4 ∧
        (∃ shared, r.fragments.get? "include/shared.yaml.template" = some shared ∧
          r.BringsIn t shared) ∧
        ∃ alone, r.fragments.get? "include/alone.yaml.template" = some alone ∧
          ¬r.BringsIn t alone := by
  obtain ⟨r, hr, t, ht, hlength, ⟨shared, hshared, hin⟩, alone, halone, hout⟩ :=
    closure_in_tangledStore
  have hload := eq_ok_of_mem_toOption hr
  obtain ⟨hhead, hnodup, hiff, _⟩ := a_closure_lists_what_chains_of_includes_lead_to_once hload
    (mem_of_defaultTemplate? ht)
  exact ⟨r, hload, t, ht, hhead, hnodup, hlength, ⟨shared, hshared, (hiff shared).1 hin⟩, alone,
    halone, fun hbrings => hout ((hiff alone).2 hbrings)⟩

end LayerLint.Repository
