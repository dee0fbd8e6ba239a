-- Listings of directories whose paths have no empty segments. Such a path is kept as it is but for
-- slashes in front, and it leads to the directory of its segments.
import LayerLint.Proofs.Repository.Directory
import Mathlib.Data.List.Induction

namespace LayerLint

/-! ## Slashes -/

section Slashes

variable {cs : List Char}

/-- What has no empty part does not begin with a slash. -/
theorem dropLeading_eq_self (h : ∀ part ∈ Text.cut '/' cs, part ≠ []) :
    Text.dropLeading '/' cs = cs := by
  cases cs with
  | nil => rfl
  | cons c rest =>
    have hc : c ≠ '/' := by
      rintro rfl
      exact h [] (by simp [Text.cut]) rfl
    rw [Text.dropLeading, List.dropWhile_cons_of_neg (by simpa using hc)]

theorem dropTrailing_concat (cs : List Char) (c : Char) :
    Text.dropTrailing '/' (cs ++ [c]) =
      if c = '/' then Text.dropTrailing '/' cs else cs ++ [c] := by
  rw [Text.dropTrailing, List.reverse_append, List.reverse_singleton, List.singleton_append]
  split
  · rename_i hc
    rw [List.dropWhile_cons_of_pos (by simpa using hc), Text.dropTrailing]
  · rename_i hc
    rw [List.dropWhile_cons_of_neg (by simpa using hc)]
    simp

/-- What has no empty part does not end with a slash. -/
theorem dropTrailing_eq_self (h : ∀ part ∈ Text.cut '/' cs, part ≠ []) :
    Text.dropTrailing '/' cs = cs := by
  rcases List.eq_nil_or_concat cs with rfl | ⟨front, c, rfl⟩
  · rfl
  · rw [List.concat_eq_append] at h ⊢
    have hc : c ≠ '/' := by
      rintro rfl
      rw [Text.cut_append_cons] at h
      exact h [] (List.mem_append_right _ (by simp [Text.cut])) rfl
    rw [dropTrailing_concat, if_neg hc]

/-- The parts of a text that are not empty. -/
def namedParts (cs : List Char) : List String :=
  ((Text.cut '/' cs).map String.ofList).filter fun segment => segment != ""

theorem namedParts_dropLeading (cs : List Char) :
    namedParts (Text.dropLeading '/' cs) = namedParts cs := by
  induction cs with
  | nil => rfl
  | cons c rest ih =>
    by_cases hc : c = '/'
    · subst hc
      rw [Text.dropLeading, List.dropWhile_cons_of_pos (by simp), ← Text.dropLeading, ih]
      simp [namedParts, Text.cut]
    · rw [Text.dropLeading, List.dropWhile_cons_of_neg (by simpa using hc)]

theorem namedParts_dropTrailing (cs : List Char) :
    namedParts (Text.dropTrailing '/' cs) = namedParts cs := by
  induction cs using List.reverseRecOn with
  | nil => rfl
  | append_singleton cs c ih =>
    rw [dropTrailing_concat]
    split
    · rename_i hc
      rw [ih, hc, namedParts, namedParts, Text.cut_append_cons]
      simp [Text.cut]
    · rfl

end Slashes

/-- Two listings in ascending order with the same entries are one. -/
theorem eq_of_pairwise_names {xs ys : List DirectoryEntry}
    (hxs : (xs.map (·.name)).Pairwise (· < ·)) (hys : (ys.map (·.name)).Pairwise (· < ·))
    (h : ∀ entry, entry ∈ xs ↔ entry ∈ ys) : xs = ys := by
  have hnodup : ∀ {zs : List DirectoryEntry}, (zs.map (·.name)).Pairwise (· < ·) → zs.Nodup := by
    intro zs hzs
    refine (List.pairwise_map.1 hzs).imp fun {a b} hlt heq => ?_
    exact String.lt_irrefl b.name (heq ▸ hlt)
  refine List.Perm.eq_of_pairwise ?_ (List.pairwise_map.1 hxs) (List.pairwise_map.1 hys)
    ((List.perm_ext_iff_of_nodup (hnodup hxs) (hnodup hys)).2 h)
  intro a b _ _ hab hba
  exact absurd hba (String.lt_asymm hab)

namespace MemoryStore

/-! ## Paths without gaps -/

/-- No segment of a path is empty. -/
def Gapless (path : String) : Prop := ∀ segment ∈ Text.cutString '/' path, segment ≠ ""

instance : DecidablePred Gapless := fun path =>
  inferInstanceAs (Decidable (∀ segment ∈ Text.cutString '/' path, segment ≠ ""))

/-- A name that can stand in a path without gaps. -/
def Proper (segment : String) : Prop := segment ≠ "" ∧ Plain segment

variable {m : MemoryStore} {path key name : String} {segments : List String} {rest : List Char}

theorem Gapless.parts_ne_nil (h : Gapless path) : ∀ part ∈ Text.cut '/' path.toList, part ≠ [] := by
  rintro part hpart rfl
  exact h (String.ofList []) (List.mem_map_of_mem hpart) rfl

theorem Gapless.ne_empty (h : Gapless path) : path ≠ "" := by
  rintro rfl
  exact h "" (by simp [Text.cutString, Text.cut]) rfl

theorem Gapless.proper (h : Gapless path) : ∀ segment ∈ Text.cutString '/' path, Proper segment :=
  fun segment hsegment => ⟨h segment hsegment, plain_of_mem_cutString hsegment⟩

theorem Gapless.fileKey_eq (h : Gapless path) : fileKey path = path := by
  rw [fileKey, dropLeading_eq_self h.parts_ne_nil, String.ofList_toList]

/-- Slashes in front make no difference to the directory that a path leads to. -/
theorem directoryKey_eq (h : fileKey path = "" ∨ Gapless (fileKey path)) :
    directoryKey path = (fileKey path).toList := by
  have hkey : (fileKey path).toList = Text.dropLeading '/' path.toList := String.toList_ofList
  rw [directoryKey, ← hkey]
  rcases h with h | h
  · rw [h]
    rfl
  · exact dropTrailing_eq_self h.parts_ne_nil

theorem directoryStart_of_ne_nil (h : directoryKey path ≠ []) :
    directoryStart path = directoryKey path ++ ['/'] := by
  unfold directoryStart
  split
  · exact absurd ‹_› h
  · rfl

theorem cutString_ne_nil (path : String) : Text.cutString '/' path ≠ [] := by
  simpa [Text.cutString] using Text.cut_ne_nil '/' path.toList

theorem gapless_pathOf (hne : segments ≠ []) (h : ∀ segment ∈ segments, Proper segment) :
    Gapless (Layout.pathOf segments) := by
  rw [Gapless, Layout.cutString_pathOf hne fun segment hsegment => (h segment hsegment).2]
  exact fun segment hsegment => (h segment hsegment).1

theorem leadsTo_root : LeadsTo "" [] := ⟨rfl, nofun⟩

/-- The path of proper segments leads to their directory. -/
theorem leadsTo_pathOf (h : ∀ segment ∈ segments, Proper segment) :
    LeadsTo (Layout.pathOf segments) segments := by
  refine ⟨?_, fun segment hsegment => (h segment hsegment).2⟩
  by_cases hne : segments = []
  · rw [hne]
    exact leadsTo_root.start
  · have hgapless := gapless_pathOf hne h
    have hfile := hgapless.fileKey_eq
    have hkey := directoryKey_eq (.inr (hfile.symm ▸ hgapless))
    rw [hfile] at hkey
    have hnil : directoryKey (Layout.pathOf segments) ≠ [] := fun hnil =>
      hgapless.ne_empty (String.toList_eq_nil_iff.1 (hkey ▸ hnil))
    rw [directoryStart_of_ne_nil hnil, hkey, toList_pathOf_concat hne]

/-- The segments that name something are those between the slashes at the ends. -/
theorem segments_eq (path : String) : FileStore.segments path = namedParts (directoryKey path) := by
  rw [directoryKey, namedParts_dropTrailing, namedParts_dropLeading]
  rfl

/-- A path that something is below leads to the directory of its segments, whatever slashes stand at
its ends. -/
theorem leadsTo_of_holds (hgapless : ∀ key ∈ m.files.keys, Gapless key) (h : m.Holds path rest) :
    LeadsTo path (FileStore.segments path) := by
  obtain ⟨key, hkey, hstart⟩ := h
  rw [segments_eq]
  by_cases hnil : directoryKey path = []
  · have hnone : namedParts [] = [] := rfl
    rw [hnil, hnone]
    refine ⟨?_, nofun⟩
    rw [directoryStart, hnil]
    rfl
  · rw [directoryStart_of_ne_nil hnil, List.append_assoc, List.singleton_append] at hstart
    have hparts : ∀ part ∈ Text.cut '/' (directoryKey path), part ≠ [] := by
      intro part hpart
      refine (hgapless key hkey).parts_ne_nil part ?_
      rw [hstart, Text.cut_append_cons]
      exact List.mem_append_left _ hpart
    have hall : namedParts (directoryKey path) =
        (Text.cut '/' (directoryKey path)).map String.ofList := by
      refine List.filter_eq_self.2 fun segment hsegment => ?_
      obtain ⟨part, hpart, rfl⟩ := List.mem_map.1 hsegment
      rw [bne_iff_ne]
      exact fun hempty => hparts part hpart (String.ofList_eq_empty_iff.1 hempty)
    rw [hall]
    refine ⟨?_, fun segment hsegment => ?_⟩
    · rw [directoryStart_of_ne_nil hnil, ← toList_pathOf_concat, Layout.toList_pathOf_cut]
      simpa using Text.cut_ne_nil '/' (directoryKey path)
    · obtain ⟨part, hpart, rfl⟩ := List.mem_map.1 hsegment
      rw [Plain, String.toList_ofList]
      exact Text.not_mem_of_mem_cut hpart

/-! ## Listings as a whole -/

theorem lists_iff_mem {entries : List DirectoryEntry} (h : FileStore.list m path = .ok entries)
    {entry : DirectoryEntry} : Lists m path entry ↔ entry ∈ entries := by
  constructor
  · rintro ⟨others, hothers, hentry⟩
    cases h.symm.trans hothers
    exact hentry
  · exact fun hentry => ⟨entries, h, hentry⟩

/-- Something is listed if something is below the directory. -/
theorem exists_list_iff :
    (∃ entries, FileStore.list m path = .ok entries) ↔ ∃ rest, m.Holds path rest := by
  constructor
  · rintro ⟨entries, hlist⟩
    have hne : entries ≠ [] := by
      rintro rfl
      simp only [FileStore.list] at hlist
      split at hlist
      · cases hlist
      · rename_i hsome
        rw [Except.ok.injEq, List.map_eq_nil_iff] at hlist
        exact hsome hlist
    obtain ⟨entry, hentry⟩ := List.exists_mem_of_ne_nil _ hne
    obtain ⟨⟨rest, hholds, _⟩, _⟩ := lists_iff.1 ((lists_iff_mem hlist).2 hentry)
    exact ⟨rest, hholds⟩
  · rintro ⟨rest, hholds⟩
    classical
    have hlists : Lists m path ⟨(shown rest).name, decide (∃ other, m.Holds path other ∧
        (shown other).name = (shown rest).name ∧ (shown other).isDirectory = true),
        (shown rest).plain⟩ := lists_iff.2 ⟨⟨rest, hholds, rfl⟩, decide_eq_true_iff⟩
    obtain ⟨entries, hlist, _⟩ := hlists
    exact ⟨entries, hlist⟩

/-- A path is there if it is read as a file or listed as a directory. -/
theorem has_iff_read_or_list (h : fileKey path = "" ∨ Gapless (fileKey path)) :
    FileStore.has m path = true ↔
      (∃ contents, FileStore.read m path = .ok contents) ∨
        ∃ entries, FileStore.list m path = .ok entries := by
  rw [has_iff, exists_list_iff, directoryKey_eq h, String.ofList_toList, SortedMap.mem_keys_iff]
  simp only [read_eq_ok_iff]

/-- Every listing is in ascending order of the names, each of which stands there once. -/
theorem pairwise_names_of_list {entries : List DirectoryEntry}
    (h : FileStore.list m path = .ok entries) : (entries.map (·.name)).Pairwise (· < ·) := by
  have hnames : entries.map (·.name) = (m.listing path).keys := by
    simp only [FileStore.list] at h
    split at h
    · cases h
    · cases h
      rw [List.map_map, SortedMap.keys]
      refine List.map_congr_left fun e he => ?_
      exact ((shownBy_listing m path e.1 e.2).1 (SortedMap.get?_eq_some_iff.2 he)).1
  rw [hnames]
  exact SortedMap.pairwise_keys _

theorem nodup_names_of_list {entries : List DirectoryEntry}
    (h : FileStore.list m path = .ok entries) : (entries.map (·.name)).Nodup :=
  (pairwise_names_of_list h).imp fun {a b} (hlt : a < b) (heq : a = b) =>
    String.lt_irrefl b (heq ▸ hlt)

namespace LeadsTo

/-- A directory holds something if a file is stored below its segments. -/
theorem exists_holds_iff_storedBelow (h : LeadsTo path segments) :
    (∃ rest, m.Holds path rest) ↔ m.StoredBelow segments := by
  constructor
  · rintro ⟨rest, hholds⟩
    obtain ⟨key, hkey, hcut⟩ := h.holds_iff.1 hholds
    exact ⟨key, hkey, _, by simpa using Text.cut_ne_nil '/' rest, hcut⟩
  · rintro ⟨key, hkey, more, hmore, hcut⟩
    obtain ⟨next, others, rfl⟩ := List.exists_cons_of_ne_nil hmore
    obtain ⟨rest, hholds, _⟩ := h.exists_holds_iff.2 ⟨key, hkey, hcut⟩
    exact ⟨rest, hholds⟩

/-- What is listed is the next segment of what is stored below. -/
theorem exists_key_of_lists (h : LeadsTo path segments) {entry : DirectoryEntry}
    (hlists : Lists m path entry) :
    ∃ key ∈ m.files.keys, ∃ more, Text.cutString '/' key = segments ++ entry.name :: more := by
  obtain ⟨⟨rest, hholds, hname⟩, _⟩ := lists_iff.1 hlists
  obtain ⟨more, hmore, _⟩ := shown_eq rest
  rw [hname] at hmore
  obtain ⟨key, hkey, hcut⟩ := h.exists_holds_iff.1 ⟨rest, hholds, hmore⟩
  exact ⟨key, hkey, more, hcut⟩

/-- The next segment of what is stored below a directory is listed. -/
theorem exists_lists_of_mem_keys (h : LeadsTo path segments) (hkey : key ∈ m.files.keys)
    {more : List String} (hcut : Text.cutString '/' key = segments ++ name :: more) :
    ∃ entry, Lists m path entry ∧ entry.name = name := by
  by_cases hbelow : m.StoredBelow (segments ++ [name])
  · obtain ⟨entry, hlists, _, hname⟩ := h.listsDirectory_iff.2 hbelow
    exact ⟨entry, hlists, hname⟩
  · have hlast : more = [] := by
      by_contra hmore
      exact hbelow ⟨key, hkey, more, hmore, by simp [hcut]⟩
    have hplain : Plain name :=
      plain_of_mem_cutString (hcut ▸ List.mem_append_right _ List.mem_cons_self)
    have hstored : Layout.pathOf (segments ++ [name]) ∈ m.files.keys := by
      rwa [← hlast, ← hcut, Layout.pathOf_cutString]
    obtain ⟨entry, hlists, _, hname⟩ := h.listsFile_iff.2 ⟨⟨hplain, hstored⟩, hbelow⟩
    exact ⟨entry, hlists, hname⟩

/-- An entry is a directory if something is stored below it. -/
theorem isDirectory_iff (h : LeadsTo path segments) {entry : DirectoryEntry}
    (hlists : Lists m path entry) :
    entry.isDirectory = true ↔ m.StoredBelow (segments ++ [entry.name]) := by
  rw [h.storedBelow_iff]
  exact (lists_iff.1 hlists).2

end LeadsTo

end MemoryStore

end LayerLint
