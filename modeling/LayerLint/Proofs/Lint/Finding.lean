-- Findings, told apart. What a check finds stands in parts, one for each file or path that it looks
-- at; a finding names its part, and so nothing is found twice.
import LayerLint.Lint.Diagnostic
import Mathlib.Data.List.Basic

namespace LayerLint

/-! ## Parts of a list -/

/-- Of the parts that a list stands for, all but one may be nothing. -/
theorem flatMap_eq_of_nodup {α β : Type} {l : List α} {f : α → List β} {a : α} (h : l.Nodup)
    (ha : a ∈ l) (hf : ∀ b ∈ l, b ≠ a → f b = []) : l.flatMap f = f a := by
  obtain ⟨before, after, rfl⟩ := List.append_of_mem ha
  obtain ⟨_, hrest, hne⟩ := List.nodup_append.1 h
  have hbefore : before.flatMap f = [] := List.flatMap_eq_nil_iff.2 fun b hb =>
    hf b (List.mem_append_left _ hb) (hne b hb a List.mem_cons_self)
  have hafter : after.flatMap f = [] := by
    refine List.flatMap_eq_nil_iff.2 fun b hb => hf b (by simp [hb]) ?_
    rintro rfl
    exact (List.nodup_cons.1 hrest).1 hb
  rw [List.flatMap_append, List.flatMap_cons, hbefore, hafter, List.nil_append, List.append_nil]

namespace Finding

/-- Where each part is about one path, what is found at a path is the part about it. -/
theorem filter_flatMap_path {paths : List String} {find : String → List Finding} {path : String}
    (h : paths.Nodup) (hpath : path ∈ paths) (hfind : ∀ other, ∀ f ∈ find other, f.path = other) :
    (paths.flatMap find).filter (fun f => f.path = path) = find path := by
  rw [List.filter_flatMap, flatMap_eq_of_nodup h hpath]
  · refine List.filter_eq_self.2 fun f hf => ?_
    simpa using hfind path f hf
  · intro other _ hne
    refine List.filter_eq_nil_iff.2 fun f hf => ?_
    simpa [hfind other f hf] using hne

/-! ## Findings that are told apart -/

/-- Two findings differ in their file, their path or their message. -/
def Apart (f g : Finding) : Prop := f.file = g.file → f.path = g.path → f.message ≠ g.message

variable {α β : Type} {l : List α}

/-- Findings in parts are told apart, if each part names its own in the same place. -/
theorem pairwise_apart_flatMap {find : α → List Finding} {name : α → β} {label : Finding → β}
    (hlabel : ∀ f g : Finding, label f ≠ label g → f.Apart g) (hname : (l.map name).Nodup)
    (hfind : ∀ a ∈ l, ∀ f ∈ find a, label f = name a)
    (hparts : ∀ a ∈ l, (find a).Pairwise Apart) : (l.flatMap find).Pairwise Apart := by
  refine List.pairwise_flatMap.2 ⟨hparts, (List.pairwise_map.1 hname).imp_of_mem ?_⟩
  intro a b ha hb hne f hf g hg
  apply hlabel
  rw [hfind a ha f hf, hfind b hb g hg]
  exact hne

theorem pairwise_apart_of_file {find : α → List Finding} (file : α → String)
    (hfile : (l.map file).Nodup) (hfind : ∀ a ∈ l, ∀ f ∈ find a, f.file = file a)
    (hparts : ∀ a ∈ l, (find a).Pairwise Apart) : (l.flatMap find).Pairwise Apart :=
  pairwise_apart_flatMap (fun _ _ hne heq => absurd heq hne) hfile hfind hparts

theorem pairwise_apart_of_path {find : α → List Finding} (path : α → String)
    (hpath : (l.map path).Nodup) (hfind : ∀ a ∈ l, ∀ f ∈ find a, f.path = path a)
    (hparts : ∀ a ∈ l, (find a).Pairwise Apart) : (l.flatMap find).Pairwise Apart :=
  pairwise_apart_flatMap (fun _ _ hne _ heq => absurd heq hne) hpath hfind hparts

/-- One finding for each of different things is told apart from the others. -/
theorem pairwise_apart_map {find : α → Finding} (h : l.Nodup)
    (hfind : ∀ a b, a ≠ b → (find a).Apart (find b)) : (l.map find).Pairwise Apart :=
  List.pairwise_map.2 (h.imp (hfind _ _))

end Finding

end LayerLint
