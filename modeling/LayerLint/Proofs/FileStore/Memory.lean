-- What a store of files lists. A directory has an entry for the first segment of every path below
-- it, and the entry is a directory itself if more segments follow on some of these paths.
import LayerLint.FileStore.Memory

namespace LayerLint

/-- The listing of a directory has an entry. -/
def Lists {σ : Type} [FileStore σ] (store : σ) (path : String) (entry : DirectoryEntry) : Prop :=
  ∃ entries, FileStore.list store path = .ok entries ∧ entry ∈ entries

theorem DirectoryEntry.ext {a b : DirectoryEntry} (hname : a.name = b.name)
    (hdirectory : a.isDirectory = true ↔ b.isDirectory = true) : a = b := by
  obtain ⟨name, isDirectory, plain⟩ := a
  obtain ⟨other, otherIsDirectory, otherPlain⟩ := b
  obtain rfl : name = other := hname
  obtain rfl : isDirectory = otherIsDirectory := Bool.eq_iff_iff.2 hdirectory
  rfl

namespace MemoryStore

/-! ## Entries that paths show -/

/-- The entries of a listing are what some paths show, and nothing else. -/
def ShownBy (below : List Char → Prop) (entries : SortedMap DirectoryEntry) : Prop :=
  ∀ name entry, entries.get? name = some entry ↔
    entry.name = name ∧ (∃ rest, below rest ∧ (shown rest).name = name) ∧
      (entry.isDirectory = true ↔
        ∃ rest, below rest ∧ (shown rest).name = name ∧ (shown rest).isDirectory = true)

/-- Adds the entry that a path shows. -/
def addShown (entries : SortedMap DirectoryEntry) (rest : List Char) : SortedMap DirectoryEntry :=
  entries.insert (shown rest).name
    { shown rest with
      isDirectory :=
        (shown rest).isDirectory || (entries.get? (shown rest).name).any (·.isDirectory) }

theorem shownBy_addShown {below : List Char → Prop} {entries : SortedMap DirectoryEntry}
    (h : ShownBy below entries) (rest : List Char) :
    ShownBy (fun other => other = rest ∨ below other) (addShown entries rest) := by
  intro name entry
  rw [addShown, SortedMap.get?_insert]
  by_cases hname : name = (shown rest).name
  · subst hname
    have hbefore : (entries.get? (shown rest).name).any (·.isDirectory) = true ↔
        ∃ other, below other ∧ (shown other).name = (shown rest).name ∧
          (shown other).isDirectory = true := by
      rw [Option.any_eq_true]
      constructor
      · rintro ⟨before, hbefore, hdirectory⟩
        exact (((h _ _).1 hbefore).2.2).1 hdirectory
      · rintro ⟨other, hother, heq, hdirectory⟩
        refine ⟨⟨(shown rest).name, true, (shown rest).plain⟩, (h _ _).2 ⟨rfl, ?_, ?_⟩, rfl⟩
        · exact ⟨other, hother, heq⟩
        · exact ⟨fun _ => ⟨other, hother, heq, hdirectory⟩, fun _ => rfl⟩
    have hdirectory : (∃ other, (other = rest ∨ below other) ∧
        (shown other).name = (shown rest).name ∧ (shown other).isDirectory = true) ↔
        ((shown rest).isDirectory || (entries.get? (shown rest).name).any (·.isDirectory)) =
          true := by
      rw [Bool.or_eq_true, hbefore]
      constructor
      · rintro ⟨other, rfl | hother, heq, hdirectory⟩
        · exact .inl hdirectory
        · exact .inr ⟨other, hother, heq, hdirectory⟩
      · rintro (hdirectory | ⟨other, hother, heq, hdirectory⟩)
        · exact ⟨rest, .inl rfl, rfl, hdirectory⟩
        · exact ⟨other, .inr hother, heq, hdirectory⟩
    rw [if_pos rfl, Option.some.injEq, hdirectory]
    constructor
    · rintro rfl
      exact ⟨rfl, ⟨rest, .inl rfl, rfl⟩, Iff.rfl⟩
    · rintro ⟨hname, _, hiff⟩
      exact DirectoryEntry.ext hname.symm hiff.symm
  · have hother : ∀ other, (other = rest ∨ below other) ∧ (shown other).name = name ↔
        below other ∧ (shown other).name = name := by
      intro other
      refine ⟨fun ⟨hother, heq⟩ => ⟨hother.resolve_left ?_, heq⟩, fun ⟨hother, heq⟩ =>
        ⟨.inr hother, heq⟩⟩
      rintro rfl
      exact hname heq.symm
    simp only [if_neg hname, h name entry, ← and_assoc, hother]

theorem shownBy_foldl {below : List Char → Prop} {entries : SortedMap DirectoryEntry}
    (h : ShownBy below entries) (rests : List (List Char)) :
    ShownBy (fun other => other ∈ rests ∨ below other) (rests.foldl addShown entries) := by
  induction rests generalizing below entries with
  | nil => simpa using h
  | cons rest rests ih =>
    have hall := ih (shownBy_addShown h rest)
    simpa only [List.foldl_cons, List.mem_cons, or_assoc, or_left_comm] using hall

/-! ## Listings -/

variable {m : MemoryStore} {path : String}

/-- Some file stands below a directory; this is its path behind that of the directory. -/
def Holds (m : MemoryStore) (path : String) (rest : List Char) : Prop :=
  ∃ key ∈ m.files.keys, key.toList = directoryStart path ++ rest

theorem listing_eq (m : MemoryStore) (path : String) :
    m.listing path =
      (m.files.keys.filterMap fun key => Text.after? (directoryStart path) key.toList).foldl
        addShown SortedMap.empty := by
  rw [List.foldl_filterMap]
  unfold listing
  congr 1
  funext entries key
  cases Text.after? (directoryStart path) key.toList with
  | none => rfl
  | some rest => rfl

theorem shownBy_listing (m : MemoryStore) (path : String) :
    ShownBy (m.Holds path) (m.listing path) := by
  have hempty : ShownBy (fun _ => False) SortedMap.empty := by
    intro name entry
    simp
  have hall := shownBy_foldl hempty
    (m.files.keys.filterMap fun key => Text.after? (directoryStart path) key.toList)
  have hholds : ∀ rest, (rest ∈ m.files.keys.filterMap
      fun key => Text.after? (directoryStart path) key.toList) ↔ m.Holds path rest := by
    intro rest
    simp only [List.mem_filterMap, Text.after?_eq_some_iff, Holds]
  simpa only [hholds, or_false, ← listing_eq] using hall

/-- What is listed is what the files below a directory show. -/
theorem lists_iff {entry : DirectoryEntry} :
    Lists m path entry ↔
      (∃ rest, m.Holds path rest ∧ (shown rest).name = entry.name) ∧
        (entry.isDirectory = true ↔
          ∃ rest, m.Holds path rest ∧ (shown rest).name = entry.name ∧
            (shown rest).isDirectory = true) := by
  have hentry : Lists m path entry ↔ ∃ name, (m.listing path).get? name = some entry := by
    simp only [SortedMap.get?_eq_some_iff]
    unfold Lists
    simp only [FileStore.list]
    split
    · rename_i hnone
      simp [hnone]
    · rename_i entries _
      constructor
      · rintro ⟨_, heq, hmem⟩
        cases heq
        obtain ⟨e, he, rfl⟩ := List.mem_map.1 hmem
        exact ⟨e.1, he⟩
      · rintro ⟨name, hmem⟩
        exact ⟨_, rfl, List.mem_map.2 ⟨(name, entry), hmem, rfl⟩⟩
  rw [hentry]
  simp only [shownBy_listing m path _ entry]
  constructor
  · rintro ⟨_, rfl, hshown, hdirectory⟩
    exact ⟨hshown, hdirectory⟩
  · rintro ⟨hshown, hdirectory⟩
    exact ⟨entry.name, rfl, hshown, hdirectory⟩

/-- A file is read if it is stored under the path without the slashes in front. -/
theorem read_eq_ok_iff {contents : List UInt8} :
    FileStore.read m path = .ok contents ↔ m.files.get? (fileKey path) = some contents := by
  simp only [FileStore.read, get?]
  cases m.files.get? (fileKey path) <;> simp

/-- A path is there if a file stands at it or below it. -/
theorem has_iff :
    FileStore.has m path = true ↔
      String.ofList (directoryKey path) ∈ m.files.keys ∨ ∃ rest, m.Holds path rest := by
  simp only [FileStore.has, Bool.or_eq_true, SortedMap.contains_iff_mem_keys, List.any_eq_true,
    List.isPrefixOf_iff_prefix, Holds]
  constructor
  · rintro (hkey | ⟨key, hkey, rest, heq⟩)
    · exact .inl hkey
    · exact .inr ⟨rest, key, hkey, heq.symm⟩
  · rintro (hkey | ⟨rest, key, hkey, heq⟩)
    · exact .inl hkey
    · exact .inr ⟨key, hkey, rest, heq.symm⟩

end MemoryStore

end LayerLint
