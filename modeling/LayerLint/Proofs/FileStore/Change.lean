-- Stores of files that are made by changes. What is stored under a path is what was stored there
-- last, unless it was removed after that.
import LayerLint.Proofs.FileStore.Memory
import Mathlib.Data.List.Induction

namespace LayerLint.MemoryStore

/-! ## Changes -/

/-- A file is stored, in place of the one before it, or is removed. -/
inductive Change where
  | insert (path : String) (contents : List UInt8)
  | remove (path : String)

/-- The path of the file that is changed. -/
def Change.path : Change → String
  | .insert path _ => path
  | .remove path => path

def change (m : MemoryStore) : Change → MemoryStore
  | .insert path contents => m.insert path contents
  | .remove path => m.remove path

/-- The store that changes make out of an empty one. -/
def ofChanges (changes : List Change) : MemoryStore := changes.foldl change empty

/-- The last of the changes to a file has stored these contents. -/
def LastInserted (changes : List Change) (key : String) (contents : List UInt8) : Prop :=
  ∃ before path after, changes = before ++ .insert path contents :: after ∧ fileKey path = key ∧
    ∀ c ∈ after, fileKey c.path ≠ key

variable {m : MemoryStore} {c : Change} {changes : List Change} {key : String}
  {contents : List UInt8}

/-- What a change stores is there after it, and so is what it does not touch. -/
theorem get?_change_iff :
    (m.change c).files.get? key = some contents ↔
      (∃ path, c = .insert path contents ∧ fileKey path = key) ∨
        m.files.get? key = some contents ∧ fileKey c.path ≠ key := by
  cases c with
  | insert path other =>
    simp only [change, insert, SortedMap.get?_insert, Change.insert.injEq, Change.path]
    by_cases hkey : key = fileKey path
    · subst hkey
      rw [if_pos rfl, Option.some.injEq]
      constructor
      · rintro rfl
        exact .inl ⟨path, ⟨rfl, rfl⟩, rfl⟩
      · rintro (⟨_, ⟨rfl, rfl⟩, _⟩ | ⟨_, hne⟩)
        · rfl
        · exact absurd rfl hne
    · simp [hkey, Ne.symm hkey]
  | remove path =>
    simp only [change, remove, SortedMap.get?_erase_eq_some_iff, Change.path, reduceCtorEq,
      false_and, exists_false, false_or]
    exact and_congr_right fun _ => ne_comm

theorem lastInserted_concat_iff :
    LastInserted (changes ++ [c]) key contents ↔
      (∃ path, c = .insert path contents ∧ fileKey path = key) ∨
        LastInserted changes key contents ∧ fileKey c.path ≠ key := by
  constructor
  · rintro ⟨before, path, after, heq, hpath, hafter⟩
    rcases List.eq_nil_or_concat after with rfl | ⟨after, last, rfl⟩
    · obtain ⟨_, hlast⟩ := List.append_inj' heq rfl
      exact .inl ⟨path, List.singleton_inj.1 hlast, hpath⟩
    · rw [List.concat_eq_append, ← List.cons_append, ← List.append_assoc] at heq
      obtain ⟨hchanges, hlast⟩ := List.append_inj' heq rfl
      cases List.singleton_inj.1 hlast
      rw [List.concat_eq_append] at hafter
      exact .inr ⟨⟨before, path, after, hchanges, hpath, fun d hd =>
        hafter d (List.mem_append_left _ hd)⟩, hafter c List.mem_concat_self⟩
  · rintro (⟨path, rfl, hpath⟩ | ⟨⟨before, path, after, rfl, hpath, hafter⟩, hlast⟩)
    · exact ⟨changes, path, [], rfl, hpath, nofun⟩
    · refine ⟨before, path, after ++ [c], by simp, hpath, fun d hd => ?_⟩
      rcases List.mem_append.1 hd with hd | hd
      · exact hafter d hd
      · exact List.mem_singleton.1 hd ▸ hlast

/-- After all changes every file has the contents that were stored last. -/
theorem get?_ofChanges_iff :
    (ofChanges changes).files.get? key = some contents ↔ LastInserted changes key contents := by
  induction changes using List.reverseRecOn with
  | nil =>
    constructor
    · exact nofun
    · rintro ⟨before, path, after, heq, _⟩
      cases before <;> cases heq
  | append_singleton changes c ih =>
    have hstep : ofChanges (changes ++ [c]) = (ofChanges changes).change c := by
      simp [ofChanges]
    rw [hstep, get?_change_iff, lastInserted_concat_iff, ih]

/-- What is stored was stored by one of the changes. -/
theorem exists_change_of_mem_keys (h : key ∈ (ofChanges changes).files.keys) :
    ∃ c ∈ changes, fileKey c.path = key := by
  obtain ⟨contents, hcontents⟩ := SortedMap.mem_keys_iff.1 h
  obtain ⟨before, path, after, rfl, hpath, _⟩ := get?_ofChanges_iff.1 hcontents
  exact ⟨.insert path contents, List.mem_append_right _ List.mem_cons_self, hpath⟩

end LayerLint.MemoryStore
