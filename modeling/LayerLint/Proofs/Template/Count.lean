-- How often each path stands in a list of paths: the counts of a template's references.
import LayerLint.Template.Reference
import Mathlib.Algebra.BigOperators.Group.List.Lemmas

namespace LayerLint.Template

theorem get?_foldl_count (paths : List String) (counts : SortedMap Nat) (path : String) :
    (paths.foldl (fun counts path => counts.insert path ((counts.get? path).getD 0 + 1))
      counts).get? path =
        if paths.count path = 0 then counts.get? path
        else some ((counts.get? path).getD 0 + paths.count path) := by
  induction paths generalizing counts with
  | nil => rfl
  | cons first rest ih =>
    rw [List.foldl_cons, ih, SortedMap.get?_insert, List.count_cons]
    by_cases hfirst : path = first
    · subst hfirst
      simp only [if_true, beq_self_eq_true, Nat.succ_ne_zero, if_false, Option.getD_some]
      split
      · rename_i hnone
        rw [hnone, Nat.zero_add]
      · rw [Nat.add_assoc, Nat.add_comm 1]
    · have hbeq : (first == path) = false := beq_eq_false_iff_ne.2 fun heq => hfirst heq.symm
      simp only [hfirst, if_false, hbeq, Bool.false_eq_true, Nat.add_zero]

/-- A path is counted as often as it stands in the list, and not at all if it does not. -/
theorem get?_countPaths_iff {paths : List String} {path : String} {n : Nat} :
    (countPaths paths).get? path = some n ↔ 0 < n ∧ paths.count path = n := by
  have hget := get?_foldl_count paths SortedMap.empty path
  rw [SortedMap.get?_empty, Option.getD_none, Nat.zero_add] at hget
  rw [countPaths, hget]
  split
  · rename_i hnone
    rw [hnone]
    exact ⟨nofun, fun ⟨hpos, heq⟩ => absurd heq (Nat.ne_of_lt hpos)⟩
  · rename_i hsome
    rw [Option.some.injEq]
    exact ⟨fun heq => ⟨heq ▸ Nat.pos_of_ne_zero hsome, heq⟩, And.right⟩

/-- A path that is not counted stands nowhere in the list. -/
theorem getD_get?_countPaths (paths : List String) (path : String) :
    ((countPaths paths).get? path).getD 0 = paths.count path := by
  cases hget : (countPaths paths).get? path with
  | some n => exact (get?_countPaths_iff.1 hget).2.symm
  | none =>
    by_contra hcount
    have hpos : 0 < paths.count path := by
      simp only [Option.getD_none] at hcount
      omega
    rw [get?_countPaths_iff.2 ⟨hpos, rfl⟩] at hget
    cases hget

/-- Two lists are counted alike just if one is the other in another order. -/
theorem countPaths_eq_iff {paths others : List String} :
    countPaths paths = countPaths others ↔ paths.Perm others := by
  rw [List.perm_iff_count]
  constructor
  · intro h path
    rw [← getD_get?_countPaths, h, getD_get?_countPaths]
  · intro h
    apply SortedMap.ext_get?
    intro path
    apply Option.ext
    intro n
    simp only [get?_countPaths_iff, h]

theorem mem_keys_countPaths_iff {paths : List String} {path : String} :
    path ∈ (countPaths paths).keys ↔ path ∈ paths := by
  rw [SortedMap.mem_keys_iff, ← List.count_pos_iff]
  simp only [get?_countPaths_iff]
  constructor
  · rintro ⟨n, hpos, rfl⟩
    exact hpos
  · intro hpos
    exact ⟨_, hpos, rfl⟩

/-- All counts of a map together. -/
def totalCount (counts : SortedMap Nat) : Nat :=
  (counts.entries.map (·.2)).foldr (· + ·) 0

/-- All counts together are the length of the list. -/
theorem totalCount_countPaths (paths : List String) :
    totalCount (countPaths paths) = paths.length := by
  have hcounts : (countPaths paths).entries.map (·.2) =
      (countPaths paths).keys.map fun path => paths.count path := by
    unfold SortedMap.keys
    rw [List.map_map]
    apply List.map_congr_left
    rintro ⟨path, n⟩ he
    exact (get?_countPaths_iff.1 (SortedMap.get?_eq_some_iff.2 he)).2.symm
  have hkeys : (countPaths paths).keys.Perm paths.dedup := by
    rw [List.perm_ext_iff_of_nodup (SortedMap.nodup_keys _) (List.nodup_dedup _)]
    intro path
    rw [mem_keys_countPaths_iff, List.mem_dedup]
  have hsum : totalCount (countPaths paths) = ((countPaths paths).entries.map (·.2)).sum := rfl
  rw [hsum, hcounts, (hkeys.map _).sum_eq, List.sum_map_count_dedup_eq_length]

end LayerLint.Template
