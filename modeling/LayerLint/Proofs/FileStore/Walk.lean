-- A store of files as a tree of directories. Directories are nowhere stored, but who goes from
-- listing to listing meets every file that is stored, and meets it once.
import LayerLint.Proofs.FileStore.Change
import LayerLint.Proofs.FileStore.Listing
import Mathlib.Algebra.Order.BigOperators.Group.List
import Mathlib.Algebra.Order.Group.Nat
import Mathlib.Data.List.Nodup

namespace LayerLint

/-! ## Walks -/

section Walks

variable {σ : Type} [FileStore σ]

/-- A walk through entries of a directory, which is given by its segments: the files are read, and
the directories are listed and walked through. It finds files by their paths. -/
inductive Walks (store : σ) :
    List String → List DirectoryEntry → List (String × List UInt8) → Prop where
  | done {directory : List String} : Walks store directory [] []
  | file {directory : List String} {entry : DirectoryEntry} {entries : List DirectoryEntry}
      {contents : List UInt8} {found : List (String × List UInt8)}
      (hfile : entry.isDirectory = false)
      (hread : FileStore.read store (Layout.pathOf (directory ++ [entry.name])) = .ok contents)
      (hrest : Walks store directory entries found) :
      Walks store directory (entry :: entries)
        ((Layout.pathOf (directory ++ [entry.name]), contents) :: found)
  | descend {directory : List String} {entry : DirectoryEntry}
      {entries others : List DirectoryEntry} {inner found : List (String × List UInt8)}
      (hdirectory : entry.isDirectory = true)
      (hlist : FileStore.list store (Layout.pathOf (directory ++ [entry.name])) = .ok others)
      (hinner : Walks store (directory ++ [entry.name]) others inner)
      (hrest : Walks store directory entries found) :
      Walks store directory (entry :: entries) (inner ++ found)

/-- The walk through the whole store, from its root. -/
def WalkFinds (store : σ) (found : List (String × List UInt8)) : Prop :=
  ∃ entries, FileStore.list store "" = .ok entries ∧ Walks store [] entries found

end Walks

namespace MemoryStore

variable {m : MemoryStore} {directory : List String} {entry : DirectoryEntry}
  {entries : List DirectoryEntry} {found : List (String × List UInt8)} {path key : String}
  {contents : List UInt8}

/-! ## Stores without files above files -/

/-- No path has an empty segment, and none goes on below a file. -/
structure Tidy (m : MemoryStore) : Prop where
  gapless : ∀ key ∈ m.files.keys, Gapless key
  apart : ∀ key ∈ m.files.keys, ¬m.StoredBelow (Text.cutString '/' key)

/-- A file is stored below a path if its own path begins with that and a slash. -/
theorem storedBelow_cutString_iff :
    m.StoredBelow (Text.cutString '/' path) ↔
      ∃ other ∈ m.files.keys, Text.beginsWith other (path ++ "/") = true := by
  refine exists_congr fun other => and_congr_right fun _ => ?_
  have hslash : ("/" : String).toList = ['/'] := rfl
  rw [Text.beginsWith, List.isPrefixOf_iff_prefix, String.toList_append, hslash]
  constructor
  · rintro ⟨more, hmore, hcut⟩
    refine ⟨(Layout.pathOf more).toList, ?_⟩
    rw [← Layout.pathOf_cutString other, hcut,
      Layout.toList_pathOf_append (cutString_ne_nil path) hmore, Layout.pathOf_cutString,
      List.append_assoc, List.singleton_append]
  · rintro ⟨rest, hrest⟩
    refine ⟨(Text.cut '/' rest).map String.ofList, by simpa using Text.cut_ne_nil '/' rest, ?_⟩
    rw [Text.cutString, Text.cutString, ← hrest, List.append_assoc, List.singleton_append,
      Text.cut_append_cons, List.map_append]

/-- The name of an entry can stand in a path. -/
theorem Tidy.proper_of_lists (hm : m.Tidy) (h : LeadsTo path directory)
    (hlists : Lists m path entry) : Proper entry.name := by
  obtain ⟨key, hkey, more, hcut⟩ := h.exists_key_of_lists hlists
  exact (hm.gapless key hkey).proper _ (hcut ▸ List.mem_append_right _ List.mem_cons_self)

/-! ## What a walk finds -/

/-- A path goes through one of the entries of a directory. -/
def Through (directory : List String) (entries : List DirectoryEntry) (key : String) : Prop :=
  ∃ entry ∈ entries, ∃ more, Text.cutString '/' key = directory ++ entry.name :: more

theorem through_cons_iff :
    Through directory (entry :: entries) key ↔
      (∃ more, Text.cutString '/' key = directory ++ entry.name :: more) ∨
        Through directory entries key := by
  simp only [Through, List.mem_cons, or_and_right, exists_or, exists_eq_left]

/-- A path goes through one entry at most. -/
theorem not_through {more : List String} (hname : entry.name ∉ entries.map (·.name))
    (hcut : Text.cutString '/' key = directory ++ entry.name :: more) :
    ¬Through directory entries key := by
  rintro ⟨other, hother, others, hothers⟩
  have heq := (List.cons.inj (List.append_cancel_left (hcut.symm.trans hothers))).1
  exact hname (heq ▸ List.mem_map_of_mem hother)

/-- Everything that is stored below a directory goes through its listing. -/
theorem through_listing_iff (h : LeadsTo path directory)
    (hlist : FileStore.list m path = .ok entries) (hkey : key ∈ m.files.keys) :
    Through directory entries key ↔
      ∃ name more, Text.cutString '/' key = directory ++ name :: more := by
  constructor
  · rintro ⟨entry, _, more, hcut⟩
    exact ⟨entry.name, more, hcut⟩
  · rintro ⟨name, more, hcut⟩
    obtain ⟨entry, hlists, rfl⟩ := h.exists_lists_of_mem_keys hkey hcut
    exact ⟨entry, (lists_iff_mem hlist).1 hlists, more, hcut⟩

/-- What was found is what is stored, and no path was found twice. -/
structure Finds (m : MemoryStore) (paths : String → Prop) (found : List (String × List UInt8)) :
    Prop where
  nodup : (found.map (·.1)).Nodup
  mem_iff : ∀ key contents, (key, contents) ∈ found ↔
    m.files.get? key = some contents ∧ paths key

theorem Finds.congr {paths others : String → Prop}
    (hpaths : ∀ key ∈ m.files.keys, (paths key ↔ others key)) (h : m.Finds paths found) :
    m.Finds others found := by
  refine ⟨h.nodup, fun key contents => (h.mem_iff key contents).trans ?_⟩
  exact and_congr_right fun hkey => hpaths key (SortedMap.mem_keys_iff.2 ⟨contents, hkey⟩)

/-- What is found on paths of two kinds, none of which is of both. -/
theorem Finds.append {paths others : String → Prop} {more : List (String × List UInt8)}
    (h : m.Finds paths found) (hmore : m.Finds others more)
    (hapart : ∀ key, paths key → ¬others key) :
    m.Finds (fun key => paths key ∨ others key) (found ++ more) := by
  constructor
  · rw [List.map_append, List.nodup_append']
    refine ⟨h.nodup, hmore.nodup, fun key hkey hother => ?_⟩
    obtain ⟨⟨_, contents⟩, hfound, rfl⟩ := List.mem_map.1 hkey
    obtain ⟨⟨_, contents'⟩, hfound', rfl⟩ := List.mem_map.1 hother
    exact hapart _ ((h.mem_iff _ _).1 hfound).2 ((hmore.mem_iff _ _).1 hfound').2
  · intro key contents
    rw [List.mem_append, h.mem_iff, hmore.mem_iff, and_or_left]

theorem finds_singleton (h : m.files.get? path = some contents) :
    m.Finds (· = path) [(path, contents)] := by
  refine ⟨List.nodup_singleton _, fun key others => ?_⟩
  rw [List.mem_singleton, Prod.mk.injEq]
  constructor
  · rintro ⟨rfl, rfl⟩
    exact ⟨h, rfl⟩
  · rintro ⟨hkey, rfl⟩
    exact ⟨rfl, Option.some.inj (hkey.symm.trans h)⟩

/-- The paths that go through a file are its own. -/
theorem through_file_iff (h : LeadsTo path directory) (hlists : Lists m path entry)
    (hfile : entry.isDirectory = false) (hkey : key ∈ m.files.keys) :
    (∃ more, Text.cutString '/' key = directory ++ entry.name :: more) ↔
      key = Layout.pathOf (directory ++ [entry.name]) := by
  constructor
  · rintro ⟨more, hcut⟩
    have hlast : more = [] := by
      by_contra hmore
      have hbelow : m.StoredBelow (directory ++ [entry.name]) :=
        ⟨key, hkey, more, hmore, by simp [hcut]⟩
      simp [(h.isDirectory_iff hlists).2 hbelow] at hfile
    rw [← Layout.pathOf_cutString key, hcut, hlast]
  · rintro rfl
    exact ⟨[], Layout.cutString_pathOf (by simp) (h.plain_concat entry.plain)⟩

/-- The paths that go through a directory go on below it. -/
theorem Tidy.through_directory_iff (hm : m.Tidy) (h : LeadsTo path directory)
    (hlists : Lists m path entry) (hdirectory : entry.isDirectory = true)
    (hkey : key ∈ m.files.keys) :
    (∃ more, Text.cutString '/' key = directory ++ entry.name :: more) ↔
      ∃ name more, Text.cutString '/' key = (directory ++ [entry.name]) ++ name :: more := by
  simp only [List.append_assoc, List.singleton_append]
  constructor
  · rintro ⟨more, hcut⟩
    cases more with
    | nil =>
      have hbelow := (h.isDirectory_iff hlists).1 hdirectory
      rw [← hcut] at hbelow
      exact absurd hbelow (hm.apart key hkey)
    | cons name more => exact ⟨name, more, hcut⟩
  · rintro ⟨name, more, hcut⟩
    exact ⟨name :: more, hcut⟩

/-- A directory whose path is made of names that can stand in a path. -/
def ProperDirectory (directory : List String) : Prop := ∀ segment ∈ directory, Proper segment

theorem ProperDirectory.concat (h : ProperDirectory directory) {name : String}
    (hname : Proper name) : ProperDirectory (directory ++ [name]) :=
  List.forall_mem_append.2 ⟨h, List.forall_mem_singleton.2 hname⟩

/-- A walk finds what is stored on the paths through the entries, by induction on the walk. -/
theorem Tidy.finds_of_walks (hm : m.Tidy) (h : Walks m directory entries found)
    (hdirectory : ProperDirectory directory)
    (hlisted : ∀ entry ∈ entries, Lists m (Layout.pathOf directory) entry)
    (hnames : (entries.map (·.name)).Nodup) : m.Finds (Through directory entries) found := by
  induction h with
  | done => exact ⟨List.nodup_nil, fun key contents => by simp [Through]⟩
  | @file directory entry entries contents found hfile hread _ ih =>
    have hleads := leadsTo_pathOf hdirectory
    obtain ⟨hentry, hrest⟩ := List.forall_mem_cons.1 hlisted
    obtain ⟨hname, hnodup⟩ := List.nodup_cons.1 hnames
    have hproper := hdirectory.concat (hm.proper_of_lists hleads hentry)
    have hcut : Text.cutString '/' (Layout.pathOf (directory ++ [entry.name])) =
        directory ++ [entry.name] :=
      Layout.cutString_pathOf (by simp) fun segment hsegment => (hproper segment hsegment).2
    rw [read_eq_ok_iff, (gapless_pathOf (by simp) hproper).fileKey_eq] at hread
    refine ((finds_singleton hread).append (ih hdirectory hrest hnodup) ?_).congr ?_
    · rintro _ rfl
      exact not_through hname hcut
    · intro key hkey
      rw [through_cons_iff, through_file_iff hleads hentry hfile hkey]
  | @descend directory entry entries others inner found hbelow hlist _ _ ihinner ih =>
    have hleads := leadsTo_pathOf hdirectory
    obtain ⟨hentry, hrest⟩ := List.forall_mem_cons.1 hlisted
    obtain ⟨hname, hnodup⟩ := List.nodup_cons.1 hnames
    have hproper := hdirectory.concat (hm.proper_of_lists hleads hentry)
    have hinner := ihinner hproper (fun other hother => (lists_iff_mem hlist).2 hother)
      (nodup_names_of_list hlist)
    have hall : ∀ key ∈ m.files.keys, (Through (directory ++ [entry.name]) others key ↔
        ∃ more, Text.cutString '/' key = directory ++ entry.name :: more) := by
      intro key hkey
      rw [through_listing_iff (leadsTo_pathOf hproper) hlist hkey,
        hm.through_directory_iff hleads hentry hbelow hkey]
    refine ((hinner.congr hall).append (ih hdirectory hrest hnodup) ?_).congr ?_
    · rintro key ⟨more, hcut⟩
      exact not_through hname hcut
    · intro key _
      exact through_cons_iff.symm

/-! ## Walks come to an end -/

/-- A walk through entries of a directory comes to an end, by induction on how far paths go on below
it. -/
theorem Tidy.exists_walks (hm : m.Tidy) (depth : Nat) (hdirectory : ProperDirectory directory)
    (hlisted : ∀ entry ∈ entries, Lists m (Layout.pathOf directory) entry)
    (hdepth : ∀ key ∈ m.files.keys,
      (Text.cutString '/' key).length ≤ directory.length + depth) :
    ∃ found, Walks m directory entries found := by
  induction depth generalizing directory entries with
  | zero =>
    cases entries with
    | nil => exact ⟨[], .done⟩
    | cons entry entries =>
      obtain ⟨key, hkey, more, hcut⟩ :=
        (leadsTo_pathOf hdirectory).exists_key_of_lists (hlisted entry List.mem_cons_self)
      have hlength := hdepth key hkey
      rw [hcut, List.length_append, List.length_cons] at hlength
      omega
  | succ depth ihdepth =>
    have hleads := leadsTo_pathOf hdirectory
    induction entries with
    | nil => exact ⟨[], .done⟩
    | cons entry entries ih =>
      obtain ⟨hentry, hrest⟩ := List.forall_mem_cons.1 hlisted
      obtain ⟨found, hfound⟩ := ih hrest
      have hproper := hdirectory.concat (hm.proper_of_lists hleads hentry)
      cases hkind : entry.isDirectory with
      | false =>
        obtain ⟨⟨_, hstored⟩, _⟩ := hleads.listsFile_iff.1 ⟨entry, hentry, hkind, rfl⟩
        obtain ⟨contents, hcontents⟩ := SortedMap.mem_keys_iff.1 hstored
        have hread :
            FileStore.read m (Layout.pathOf (directory ++ [entry.name])) = .ok contents := by
          rw [read_eq_ok_iff, (gapless_pathOf (by simp) hproper).fileKey_eq, hcontents]
        exact ⟨_, .file hkind hread hfound⟩
      | true =>
        obtain ⟨key, hkey, more, hmore, hcut⟩ := (hleads.isDirectory_iff hentry).1 hkind
        obtain ⟨name, more, rfl⟩ := List.exists_cons_of_ne_nil hmore
        obtain ⟨_, ⟨others, hothers, _⟩, _⟩ :=
          (leadsTo_pathOf hproper).exists_lists_of_mem_keys hkey hcut
        obtain ⟨inner, hinner⟩ := ihdepth hproper
          (fun other hother => (lists_iff_mem hothers).2 hother) fun key hkey => by
            have hlength := hdepth key hkey
            simp only [List.length_append, List.length_singleton]
            omega
        exact ⟨_, .descend hkind hothers hinner hfound⟩

/-- In a store with files the walk from the root comes to an end. -/
theorem Tidy.exists_walkFinds (hm : m.Tidy) (hsome : m.files.keys ≠ []) :
    ∃ found, WalkFinds m found := by
  obtain ⟨key, hkey⟩ := List.exists_mem_of_ne_nil _ hsome
  obtain ⟨name, more, hcut⟩ := List.exists_cons_of_ne_nil (cutString_ne_nil key)
  obtain ⟨_, ⟨entries, hlist, _⟩, _⟩ := leadsTo_root.exists_lists_of_mem_keys hkey hcut
  -- No path has more segments than all paths together.
  have hdepth : ∀ key ∈ m.files.keys, (Text.cutString '/' key).length ≤
      0 + (m.files.keys.map fun key => (Text.cutString '/' key).length).sum := by
    intro key hkey
    rw [Nat.zero_add]
    exact List.le_sum_of_mem (List.mem_map_of_mem hkey)
  have hroot : ProperDirectory [] := nofun
  obtain ⟨found, hfound⟩ := hm.exists_walks _ hroot
    (fun entry hentry => (lists_iff_mem hlist).2 hentry) hdepth
  exact ⟨found, entries, hlist, hfound⟩

/-- The walk from the root finds every file that is stored once. -/
theorem Tidy.finds_of_walkFinds (hm : m.Tidy) (h : WalkFinds m found) :
    m.Finds (fun _ => True) found := by
  obtain ⟨entries, hlist, hwalks⟩ := h
  refine (hm.finds_of_walks hwalks nofun (fun entry hentry => (lists_iff_mem hlist).2 hentry)
    (nodup_names_of_list hlist)).congr fun key hkey => ?_
  rw [through_listing_iff leadsTo_root hlist hkey, iff_true]
  exact List.exists_cons_of_ne_nil (cutString_ne_nil key)

/-! ## The tree -/

/-- A store shows the files that are stored as a tree of directories. -/
structure DirectoryTree (m : MemoryStore) (stored : String → List UInt8 → Prop) : Prop where
  walked : ∃ found, WalkFinds m found
  once : ∀ found, WalkFinds m found → (found.map (·.1)).Nodup ∧
    ∀ key contents, (key, contents) ∈ found ↔ stored key contents
  ascending : ∀ path entries, FileStore.list m path = .ok entries →
    (entries.map (·.name)).Pairwise (· < ·)
  directory : ∀ path entry, Lists m path entry →
    (entry.isDirectory = true ↔ m.StoredBelow (FileStore.segments path ++ [entry.name]))
  has : ∀ path, fileKey path = "" ∨ Gapless (fileKey path) →
    (FileStore.has m path = true ↔
      (∃ contents, FileStore.read m path = .ok contents) ∨
        ∃ entries, FileStore.list m path = .ok entries)

/-- Whatever files were stored and removed, those that are left are a tree of directories, if no
path has an empty segment or goes on below a file. -/
theorem the_files_that_are_left_are_a_tree_of_directories {changes : List Change}
    (hpaths : ∀ c ∈ changes, Gapless (fileKey c.path))
    (hsome : (ofChanges changes).files.keys ≠ [])
    (hapart : ∀ path ∈ (ofChanges changes).files.keys,
      ∀ other ∈ (ofChanges changes).files.keys, Text.beginsWith other (path ++ "/") = false) :
    DirectoryTree (ofChanges changes) (LastInserted changes) := by
  have htidy : (ofChanges changes).Tidy := by
    constructor
    · intro key hkey
      obtain ⟨c, hc, rfl⟩ := exists_change_of_mem_keys hkey
      exact hpaths c hc
    · intro path hpath hbelow
      obtain ⟨other, hother, hbegins⟩ := storedBelow_cutString_iff.1 hbelow
      exact absurd hbegins (Bool.eq_false_iff.1 (hapart path hpath other hother))
  refine ⟨htidy.exists_walkFinds hsome, fun found hfound => ?_,
    fun _ _ hlist => pairwise_names_of_list hlist, fun path entry hlists => ?_,
    fun _ hpath => has_iff_read_or_list hpath⟩
  · have hfinds := htidy.finds_of_walkFinds hfound
    refine ⟨hfinds.nodup, fun key contents => ?_⟩
    rw [hfinds.mem_iff, and_true, get?_ofChanges_iff]
  · obtain ⟨⟨rest, hholds, _⟩, _⟩ := lists_iff.1 hlists
    exact (leadsTo_of_holds htidy.gapless hholds).isDirectory_iff hlists

/-- Files whose names begin alike, one of them stored again, and one that is removed. -/
def editedFiles : List Change :=
  [.insert "/a/foo" [1], .insert "a/foobar/x" [2], .insert "a/foo.yaml" [3], .insert "//b" [4],
    .insert "a/foo" [5], .insert "gone/y" [6], .remove "/gone/y", .remove "never"]

theorem the_edited_files_are_found_with_their_last_contents :
    DirectoryTree (ofChanges editedFiles) (LastInserted editedFiles) ∧
      LastInserted editedFiles "a/foo" [5] ∧
      FileStore.has (ofChanges editedFiles) "//a/foobar" = true ∧
      FileStore.has (ofChanges editedFiles) "gone" = false :=
  ⟨the_files_that_are_left_are_a_tree_of_directories (by decide +kernel) (by decide +kernel)
    (by decide +kernel), get?_ofChanges_iff.1 (by decide +kernel), by decide +kernel,
    by decide +kernel⟩

end MemoryStore

end LayerLint
