-- A store on a disk and a store in memory that hold the same files. The one follows the segments
-- of a path through directories, the other compares the beginnings of whole paths, and both give
-- the same answers.
import LayerLint.FileStore.Rooted
import LayerLint.Proofs.FileStore.Tree

namespace LayerLint

open MemoryStore (Proper Gapless)

/-! ## Places on a disk -/

namespace RootedStore

variable {path name : String} {segments : List String}

theorem exists_join_eq (path name : String) : ∃ tail, join path name = path ++ tail := by
  unfold join
  split
  · rename_i hempty
    exact ⟨name, by simp_all⟩
  · split
    · exact ⟨name, rfl⟩
    · exact ⟨"/" ++ name, String.append_assoc ..⟩

/-- A longer path begins with a shorter one. -/
theorem exists_foldl_join_eq (path : String) (segments : List String) :
    ∃ tail, segments.foldl join path = path ++ tail := by
  induction segments generalizing path with
  | nil => exact ⟨"", by simp⟩
  | cons name rest ih =>
    obtain ⟨first, hfirst⟩ := exists_join_eq path name
    obtain ⟨tail, htail⟩ := ih (join path name)
    exact ⟨first ++ tail, by rw [List.foldl_cons, htail, hfirst, String.append_assoc]⟩

theorem cutString_slash (front : List Char) (hname : Proper name) :
    Text.cutString '/' (String.ofList (front ++ '/' :: name.toList)) =
      (Text.cut '/' front).map String.ofList ++ [name] := by
  rw [Text.cutString, String.toList_ofList, Text.cut_append_cons, Text.cut_of_not_mem hname.2]
  simp

theorem endsWith_slash_iff : Text.endsWith path "/" = true ↔ ['/'] <:+ path.toList := by
  rw [Text.endsWith, List.isSuffixOf_iff_suffix]
  rfl

theorem join_of_slash {front : List Char} (h : path.toList = front ++ ['/']) (name : String) :
    join path name = String.ofList (front ++ '/' :: name.toList) := by
  have hne : path.isEmpty = false := by
    rw [String.isEmpty_eq_false_iff]
    rintro rfl
    simp at h
  have hend : Text.endsWith path "/" = true := endsWith_slash_iff.2 ⟨front, h.symm⟩
  rw [join, hne, hend, ← String.toList_inj, String.toList_ofList]
  simp [h]

theorem join_of_no_slash (hne : path ≠ "") (h : ¬ ['/'] <:+ path.toList) (name : String) :
    join path name = String.ofList (path.toList ++ '/' :: name.toList) := by
  have hempty : path.isEmpty = false := String.isEmpty_eq_false_iff.2 hne
  have hend : ¬ Text.endsWith path "/" = true := mt endsWith_slash_iff.1 h
  rw [join, hempty, if_neg Bool.false_ne_true, if_neg hend, ← String.toList_inj,
    String.toList_ofList]
  simp

/-- No name ends with a slash. -/
theorem not_slash_suffix (front : List Char) (hname : Proper name) :
    ¬ ['/'] <:+ (String.ofList (front ++ '/' :: name.toList)).toList := by
  rw [String.toList_ofList]
  rintro ⟨others, hothers⟩
  have hne : name.toList ≠ [] := by simpa using hname.1
  obtain ⟨rest, c, hconcat⟩ := List.eq_nil_or_concat name.toList |>.resolve_left hne
  rw [hconcat, List.concat_eq_append, ← List.cons_append, ← List.append_assoc] at hothers
  have hlast := (List.append_inj_right' hothers rfl)
  rw [List.cons.injEq] at hlast
  apply hname.2
  rw [hconcat, ← hlast.1]
  simp

theorem slash_ne_empty (front : List Char) (name : String) :
    String.ofList (front ++ '/' :: name.toList) ≠ "" := by
  intro h
  have hnil := String.ofList_eq_empty_iff.1 h
  simp at hnil

/-- The names come behind the segments of a path that does not end with a slash. -/
theorem cutString_foldl_join (hne : path ≠ "") (hend : ¬ ['/'] <:+ path.toList)
    (hnames : ∀ segment ∈ segments, Proper segment) :
    Text.cutString '/' (segments.foldl join path) = Text.cutString '/' path ++ segments := by
  induction segments generalizing path with
  | nil => rw [List.append_nil, List.foldl_nil]
  | cons name rest ih =>
    obtain ⟨hname, hrest⟩ := List.forall_mem_cons.1 hnames
    rw [List.foldl_cons, join_of_no_slash hne hend,
      ih (slash_ne_empty _ name) (not_slash_suffix _ hname) hrest, cutString_slash _ hname,
      List.append_assoc]
    rfl

/-- All segments of a place come behind those of the root, but for an empty one at its end. -/
theorem exists_cutString_foldl_join (hne : path ≠ "") :
    ∃ front, (Text.cutString '/' path = front ∨ Text.cutString '/' path = front ++ [""]) ∧
      ∀ segments, segments ≠ [] → (∀ segment ∈ segments, Proper segment) →
        Text.cutString '/' (segments.foldl join path) = front ++ segments := by
  by_cases hend : ['/'] <:+ path.toList
  · obtain ⟨front, hfront⟩ := hend
    refine ⟨(Text.cut '/' front).map String.ofList, .inr ?_, ?_⟩
    · rw [Text.cutString, ← hfront, Text.cut_append_cons]
      simp [Text.cut]
    · intro segments hsegments hnames
      obtain ⟨name, rest, rfl⟩ := List.exists_cons_of_ne_nil hsegments
      obtain ⟨hname, hrest⟩ := List.forall_mem_cons.1 hnames
      rw [List.foldl_cons, join_of_slash hfront.symm,
        cutString_foldl_join (slash_ne_empty _ name) (not_slash_suffix _ hname) hrest,
        cutString_slash _ hname, List.append_assoc]
      rfl
  · refine ⟨Text.cutString '/' path, .inl rfl, ?_⟩
    intro segments _ hnames
    exact cutString_foldl_join hne hend hnames

end RootedStore

/-! ## The same files -/

/-- A directory on a disk and a store in memory with the same files. The root is any path that
leads to the directory, relative or absolute. The last two fields are limits of the system and not
of the stores: it keeps no longer names, and takes no longer path and none with a null. -/
structure Mirrors (disk : RootedStore FileTree) (top : FileTree) (m : MemoryStore) : Prop where
  root : disk.store.find disk.root = .ok top
  directory : top.isDirectory = true
  sound : top.Sound
  files : ∀ key contents, m.files.get? key = some contents ↔
    top.FileAt (Text.cutString '/' key) contents
  names : ∀ key ∈ m.files.keys, ∀ segment ∈ Text.cutString '/' key,
    segment.utf8ByteSize ≤ FileTree.nameLimit
  places : ∀ key ∈ m.files.keys, '\x00' ∉ (disk.place key).toList ∧
    (disk.place key).utf8ByteSize < FileTree.pathLimit

namespace Mirrors

open FileTree (IsName FileAt)

variable {disk : RootedStore FileTree} {top node : FileTree} {m : MemoryStore}
  {segments more : List String} {contents : List UInt8}

theorem ne_nil_of_fileAt (h : Mirrors disk top m) (hfile : FileAt top segments contents) :
    segments ≠ [] := by
  rintro rfl
  cases hfile
  cases h.directory

/-- A file of the tree is stored under the path of its segments. -/
theorem get?_pathOf_iff (h : Mirrors disk top m) (hnames : ∀ segment ∈ segments, IsName segment) :
    m.files.get? (Layout.pathOf segments) = some contents ↔ FileAt top segments contents := by
  by_cases hne : segments = []
  · subst hne
    constructor
    · intro hget
      have hfile := (h.files _ _).1 hget
      have hempty := hfile.isName h.sound "" (by decide)
      exact absurd rfl hempty.proper.1
    · intro hfile
      exact absurd rfl (h.ne_nil_of_fileAt hfile)
  · have hplain : ∀ segment ∈ segments, '/' ∉ segment.toList :=
      fun segment hsegment => (hnames segment hsegment).proper.2
    rw [h.files, Layout.cutString_pathOf hne hplain]

/-- The keys of the store are the paths of the files of the tree. -/
theorem exists_key_iff (h : Mirrors disk top m) :
    (∃ key ∈ m.files.keys, Text.cutString '/' key = segments) ↔
      ∃ contents, FileAt top segments contents := by
  constructor
  · rintro ⟨key, hkey, rfl⟩
    obtain ⟨contents, hget⟩ := SortedMap.mem_keys_iff.1 hkey
    exact ⟨contents, (h.files _ _).1 hget⟩
  · rintro ⟨contents, hfile⟩
    have hnames := hfile.isName h.sound
    refine ⟨Layout.pathOf segments, ?_, ?_⟩
    · exact SortedMap.mem_keys_iff.2 ⟨contents, (h.get?_pathOf_iff hnames).2 hfile⟩
    · exact Layout.cutString_pathOf (h.ne_nil_of_fileAt hfile) fun segment hsegment =>
        (hnames segment hsegment).proper.2

/-- A file is stored below segments that lead to a directory. -/
theorem storedBelow_iff (h : Mirrors disk top m) :
    m.StoredBelow segments ↔ ∃ entries, top.below? segments = some (.directory entries) := by
  rw [← h.sound.exists_fileAt_below_iff]
  constructor
  · rintro ⟨key, hkey, more, hmore, hcut⟩
    obtain ⟨contents, hfile⟩ := h.exists_key_iff.1 ⟨key, hkey, hcut⟩
    exact ⟨more, contents, hmore, hfile⟩
  · rintro ⟨more, contents, hmore, hfile⟩
    obtain ⟨key, hkey, hcut⟩ := h.exists_key_iff.2 ⟨contents, hfile⟩
    exact ⟨key, hkey, more, hmore, hcut⟩

/-- Below segments stands a key of the store just if they lead somewhere. -/
theorem exists_key_below_iff (h : Mirrors disk top m) :
    (∃ key ∈ m.files.keys, ∃ more, Text.cutString '/' key = segments ++ more) ↔
      ∃ node, top.below? segments = some node := by
  constructor
  · rintro ⟨key, hkey, more, hcut⟩
    obtain ⟨contents, hfile⟩ := h.exists_key_iff.1 ⟨key, hkey, hcut⟩
    obtain ⟨node, hnode, _⟩ := h.sound.fileAt_append_iff.1 hfile
    exact ⟨node, hnode⟩
  · rintro ⟨node, hnode⟩
    obtain ⟨more, contents, hfile, _⟩ := (h.sound.below? hnode).exists_fileAt
    obtain ⟨key, hkey, hcut⟩ := h.exists_key_iff.2
      ⟨contents, h.sound.fileAt_append_iff.2 ⟨node, hnode, hfile⟩⟩
    exact ⟨key, hkey, more, hcut⟩

/-! ## The same answers -/

/-- Segments are followed from the root of the disk as they are in the tree. -/
theorem exists_follow_eq (h : Mirrors disk top m) :
    ∃ above, ∀ segments, (∀ segment ∈ segments, IsName segment) →
      FileTree.follow [] disk.store
          (Text.cutString '/' (segments.foldl RootedStore.join disk.root)) =
        FileTree.follow above top segments := by
  obtain ⟨⟨_, hne, _⟩, hroot⟩ := FileTree.find_eq_ok_iff.1 h.root
  obtain ⟨front, hfront, hplaces⟩ := RootedStore.exists_cutString_foldl_join hne
  rcases FileTree.follow_append [] disk.store front with ⟨problem, herror⟩ | ⟨above, node, hgo⟩
  · rcases hfront with hfront | hfront
    · rw [hfront, ← List.append_nil front, herror] at hroot
      cases hroot
    · rw [hfront, herror] at hroot
      cases hroot
  · have htop : node = top := by
      rcases hfront with hfront | hfront
      · rw [hfront, ← List.append_nil front, hgo] at hroot
        cases hroot
        rfl
      · rw [hfront, hgo] at hroot
        cases node with
        | file => cases hroot
        | directory entries =>
          rw [FileTree.follow_stay (.inl rfl)] at hroot
          cases hroot
          rfl
    subst htop
    refine ⟨above, fun segments hnames => ?_⟩
    by_cases hsegments : segments = []
    · subst hsegments
      exact hroot
    · rw [hplaces segments hsegments fun segment hsegment => (hnames segment hsegment).proper, hgo]

/-- A place below which a file is stored is one that the system takes. -/
theorem place_ok_of_fileAt (h : Mirrors disk top m)
    (hfile : FileAt top (segments ++ more) contents) :
    (∀ segment ∈ segments, segment.utf8ByteSize ≤ FileTree.nameLimit) ∧
      '\x00' ∉ (segments.foldl RootedStore.join disk.root).toList ∧
      (segments.foldl RootedStore.join disk.root).utf8ByteSize < FileTree.pathLimit := by
  obtain ⟨key, hkey, hcut⟩ := h.exists_key_iff.2 ⟨contents, hfile⟩
  have hsegments : FileStore.segments key = segments ++ more := by
    rw [FileStore.segments, hcut, List.filter_eq_self]
    intro segment hsegment
    simpa using (hfile.isName h.sound segment hsegment).proper.1
  obtain ⟨tail, htail⟩ := RootedStore.exists_foldl_join_eq
    (segments.foldl RootedStore.join disk.root) more
  have hplace : disk.place key = segments.foldl RootedStore.join disk.root ++ tail := by
    rw [RootedStore.place, hsegments, List.foldl_append, htail]
  obtain ⟨hnul, hlimit⟩ := h.places _ hkey
  rw [hplace] at hnul hlimit
  rw [String.toList_append, List.mem_append, not_or] at hnul
  rw [String.utf8ByteSize_append] at hlimit
  refine ⟨fun segment hsegment => ?_, hnul.1, Nat.lt_of_le_of_lt (Nat.le_add_right _ _) hlimit⟩
  apply h.names _ hkey segment
  rw [hcut]
  exact List.mem_append_left _ hsegment

/-- At the place of segments stands what they lead to in the tree. -/
theorem find_foldl_join_iff (h : Mirrors disk top m)
    (hnames : ∀ segment ∈ segments, IsName segment) :
    disk.store.find (segments.foldl RootedStore.join disk.root) = .ok node ↔
      top.below? segments = some node := by
  obtain ⟨above, hfollow⟩ := h.exists_follow_eq
  rw [FileTree.find_eq_ok_iff, hfollow segments hnames, FileTree.follow_eq_ok_iff hnames]
  constructor
  · rintro ⟨_, hbelow, _⟩
    exact hbelow
  · intro hbelow
    obtain ⟨more, contents, hfile, _⟩ := (h.sound.below? hbelow).exists_fileAt
    obtain ⟨hlimits, hnul, hlimit⟩ :=
      h.place_ok_of_fileAt (h.sound.fileAt_append_iff.2 ⟨node, hbelow, hfile⟩)
    obtain ⟨⟨_, hne, _⟩, _⟩ := FileTree.find_eq_ok_iff.1 h.root
    obtain ⟨tail, htail⟩ := RootedStore.exists_foldl_join_eq disk.root segments
    refine ⟨⟨hnul, ?_, hlimit⟩, hbelow, hlimits⟩
    rw [htail]
    simp [hne]

section Listing

variable {entries : List (String × FileTree)} {entry : DirectoryEntry}

/-- What is listed in memory is what the name leads to in the tree. -/
theorem lists_iff (h : Mirrors disk top m) (hnames : ∀ segment ∈ segments, IsName segment) :
    Lists m (Layout.pathOf segments) entry ↔
      ∃ node, top.below? (segments ++ [entry.name]) = some node ∧
        entry.isDirectory = node.isDirectory := by
  have hleads := MemoryStore.leadsTo_pathOf fun segment hsegment => (hnames segment hsegment).proper
  -- What an entry is depends on its name alone.
  have hkind : ∀ {other : DirectoryEntry} {node}, Lists m (Layout.pathOf segments) other →
      top.below? (segments ++ [other.name]) = some node → other.isDirectory = node.isDirectory := by
    intro other node hlists hnode
    rw [Bool.eq_iff_iff, hleads.isDirectory_iff hlists, h.storedBelow_iff, hnode,
      FileTree.isDirectory_iff_exists]
    simp
  constructor
  · intro hlists
    obtain ⟨key, hkey, more, hcut⟩ := hleads.exists_key_of_lists hlists
    obtain ⟨node, hnode⟩ := h.exists_key_below_iff.1
      ⟨key, hkey, more, hcut.trans (List.append_cons segments entry.name more)⟩
    exact ⟨node, hnode, hkind hlists hnode⟩
  · rintro ⟨node, hnode, hdirectory⟩
    obtain ⟨key, hkey, more, hcut⟩ := h.exists_key_below_iff.2 ⟨node, hnode⟩
    obtain ⟨other, hlists, hname⟩ := hleads.exists_lists_of_mem_keys hkey
      (hcut.trans (List.append_cons segments entry.name more).symm)
    have hother := hkind hlists (hname ▸ hnode)
    have heq : entry = other := DirectoryEntry.ext hname.symm (by rw [hdirectory, hother])
    exact heq ▸ hlists

theorem lists_iff_mem_listing (h : Mirrors disk top m)
    (hnames : ∀ segment ∈ segments, IsName segment)
    (hnode : top.below? segments = some (.directory entries)) :
    Lists m (Layout.pathOf segments) entry ↔ entry ∈ FileTree.listing entries := by
  have hsound := h.sound.below? hnode
  rw [h.lists_iff hnames, hsound.mem_listing_iff, FileTree.below?_append, hnode]
  simp [FileTree.below?, hsound.lookup_eq_some_iff]

/-- A directory is listed in memory as it is in the tree, and nothing else is listed. -/
theorem list_eq_ok_iff (h : Mirrors disk top m) (hnames : ∀ segment ∈ segments, IsName segment)
    {listed : List DirectoryEntry} :
    FileStore.list m (Layout.pathOf segments) = .ok listed ↔
      ∃ entries, top.below? segments = some (.directory entries) ∧
        listed = FileTree.listing entries := by
  have hleads := MemoryStore.leadsTo_pathOf fun segment hsegment => (hnames segment hsegment).proper
  have hall : ∀ {listed entries}, FileStore.list m (Layout.pathOf segments) = .ok listed →
      top.below? segments = some (.directory entries) → listed = FileTree.listing entries := by
    intro listed entries hlist hnode
    apply eq_of_pairwise_names (MemoryStore.pairwise_names_of_list hlist)
      (h.sound.below? hnode).pairwise_names_listing
    intro entry
    rw [← MemoryStore.lists_iff_mem hlist, h.lists_iff_mem_listing hnames hnode]
  have hsome : (∃ listed, FileStore.list m (Layout.pathOf segments) = .ok listed) ↔
      ∃ entries, top.below? segments = some (.directory entries) := by
    rw [MemoryStore.exists_list_iff, hleads.exists_holds_iff_storedBelow, h.storedBelow_iff]
  constructor
  · intro hlist
    obtain ⟨entries, hnode⟩ := hsome.1 ⟨listed, hlist⟩
    exact ⟨entries, hnode, hall hlist hnode⟩
  · rintro ⟨entries, hnode, rfl⟩
    obtain ⟨listed, hlist⟩ := hsome.2 ⟨entries, hnode⟩
    exact hall hlist hnode ▸ hlist

end Listing

/-- A path of names is kept as it is. -/
theorem fileKey_pathOf (hnames : ∀ segment ∈ segments, IsName segment) :
    MemoryStore.fileKey (Layout.pathOf segments) = Layout.pathOf segments ∧
      (Layout.pathOf segments = "" ∨ Gapless (Layout.pathOf segments)) := by
  by_cases hne : segments = []
  · subst hne
    exact ⟨rfl, .inl rfl⟩
  · have hgapless := MemoryStore.gapless_pathOf hne fun segment hsegment =>
      (hnames segment hsegment).proper
    exact ⟨hgapless.fileKey_eq, .inr hgapless⟩

theorem read_eq_ok_iff (h : Mirrors disk top m) (hnames : ∀ segment ∈ segments, IsName segment) :
    FileStore.read m (Layout.pathOf segments) = .ok contents ↔
      top.below? segments = some (.file contents) := by
  rw [MemoryStore.read_eq_ok_iff, (fileKey_pathOf hnames).1, h.get?_pathOf_iff hnames,
    h.sound.fileAt_iff]

end Mirrors

/-- No segment of a path is empty, one point or two points. The empty path is that of the root. -/
def OfNames (path : String) : Prop :=
  path = "" ∨ ∀ segment ∈ Text.cutString '/' path, segment ≠ "" ∧ segment ≠ "." ∧ segment ≠ ".."

instance : DecidablePred OfNames := fun path =>
  inferInstanceAs (Decidable (path = "" ∨
    ∀ segment ∈ Text.cutString '/' path, segment ≠ "" ∧ segment ≠ "." ∧ segment ≠ ".."))

theorem OfNames.exists_segments {path : String} (h : OfNames path) :
    ∃ segments, (∀ segment ∈ segments, FileTree.IsName segment) ∧
      path = Layout.pathOf segments ∧ FileStore.segments path = segments := by
  rcases h with rfl | h
  · exact ⟨[], nofun, rfl, by decide +kernel⟩
  · refine ⟨Text.cutString '/' path, ?_, (Layout.pathOf_cutString path).symm, ?_⟩
    · intro segment hsegment
      obtain ⟨hne, hhere, habove⟩ := h segment hsegment
      exact ⟨⟨hne, plain_of_mem_cutString hsegment⟩, hhere, habove⟩
    · rw [FileStore.segments, List.filter_eq_self]
      intro segment hsegment
      simpa using (h segment hsegment).1

/-- A directory on a disk and a store in memory that hold the same files give the same contents,
the same listings and the same answers about what is there, for every path of names. -/
theorem a_disk_and_a_store_in_memory_with_the_same_files_answer_alike
    {disk : RootedStore FileTree} {top : FileTree} {m : MemoryStore} (h : Mirrors disk top m)
    {path : String} (hpath : OfNames path) :
    (∀ contents, FileStore.read disk path = .ok contents ↔ FileStore.read m path = .ok contents) ∧
    (∀ entries, FileStore.list disk path = .ok entries ↔ FileStore.list m path = .ok entries) ∧
    FileStore.has disk path = FileStore.has m path := by
  obtain ⟨segments, hnames, rfl, hsegments⟩ := hpath.exists_segments
  have hfind : ∀ node, disk.store.find (disk.place (Layout.pathOf segments)) = .ok node ↔
      top.below? segments = some node := by
    intro node
    rw [RootedStore.place, hsegments, h.find_foldl_join_iff hnames]
  have hread : ∀ contents, FileStore.read disk (Layout.pathOf segments) = .ok contents ↔
      FileStore.read m (Layout.pathOf segments) = .ok contents := by
    intro contents
    rw [h.read_eq_ok_iff hnames, ← hfind]
    exact FileTree.read_eq_ok_iff
  have hlist : ∀ entries, FileStore.list disk (Layout.pathOf segments) = .ok entries ↔
      FileStore.list m (Layout.pathOf segments) = .ok entries := by
    intro entries
    rw [h.list_eq_ok_iff hnames]
    simp only [← hfind]
    exact FileTree.list_eq_ok_iff
  refine ⟨hread, hlist, ?_⟩
  obtain ⟨hkey, hgapless⟩ := Mirrors.fileKey_pathOf hnames
  rw [Bool.eq_iff_iff, MemoryStore.has_iff_read_or_list (hkey.symm ▸ hgapless)]
  simp only [← hread, ← hlist]
  exact FileTree.has_iff_read_or_list

/-- A directory whose entries a system gives in no order. -/
def keptTree : FileTree :=
  .directory [("b", .file [2]), ("a.d", .directory [("c", .file [1])]), ("a", .file [])]

/-- The disk on which it is kept. -/
def keptDisk : RootedStore FileTree := ⟨"./x/", .directory [("x", keptTree)]⟩

def keptFiles : MemoryStore := MemoryStore.ofFiles [("a", []), ("a.d/c", [1]), ("b", [2])]

theorem sound_keptTree : keptTree.Sound := by
  have hname : ∀ name ∈ ["b", "a.d", "a", "c"], FileTree.IsName name := by
    intro name hmem
    have hproper : ∀ other ∈ ["b", "a.d", "a", "c"],
        (other ≠ "" ∧ '/' ∉ other.toList) ∧ other ≠ "." ∧ other ≠ ".." := by decide +kernel
    obtain ⟨⟨hne, hplain⟩, hhere, habove⟩ := hproper name hmem
    exact ⟨⟨hne, hplain⟩, hhere, habove⟩
  refine .directory (by simp) (by decide +kernel) ?_ ?_
  · intro e he
    refine hname e.1 ?_
    simp only [List.mem_cons, List.not_mem_nil, or_false] at he
    rcases he with rfl | rfl | rfl <;> simp
  · intro e he
    simp only [List.mem_cons, List.not_mem_nil, or_false] at he
    rcases he with rfl | rfl | rfl
    · exact .file
    · refine .directory (by simp) (by decide +kernel) ?_ ?_
      · simpa using hname "c" (by simp)
      · simpa using FileTree.Sound.file
    · exact .file

theorem fileAt_keptTree_iff {segments : List String} {contents : List UInt8} :
    keptTree.FileAt segments contents ↔
      (segments, contents) ∈ [(["b"], [2]), (["a.d", "c"], [1]), (["a"], [])] := by
  constructor
  · intro h
    cases h with
    | entry hmem hfile =>
      simp only [List.mem_cons, Prod.mk.injEq, List.not_mem_nil, or_false] at hmem
      rcases hmem with ⟨rfl, rfl⟩ | ⟨rfl, rfl⟩ | ⟨rfl, rfl⟩
      · cases hfile
        simp
      · cases hfile with
        | entry hmem hfile =>
          simp only [List.mem_singleton, Prod.mk.injEq] at hmem
          obtain ⟨rfl, rfl⟩ := hmem
          cases hfile
          simp
      · cases hfile
        simp
  · intro h
    simp only [List.mem_cons, Prod.mk.injEq, List.not_mem_nil, or_false] at h
    rcases h with ⟨rfl, rfl⟩ | ⟨rfl, rfl⟩ | ⟨rfl, rfl⟩
    · exact .entry (by simp) .here
    · exact .entry (List.mem_cons_of_mem _ List.mem_cons_self) (.entry (by simp) .here)
    · exact .entry (by simp) .here

theorem get?_keptFiles_iff {key : String} {contents : List UInt8} :
    keptFiles.files.get? key = some contents ↔
      keptTree.FileAt (Text.cutString '/' key) contents := by
  have hentries : keptFiles.files.entries = [("a", []), ("a.d/c", [1]), ("b", [2])] := by
    decide +kernel
  have hpath := (Layout.pathOf_cutString key).symm
  rw [SortedMap.get?_eq_some_iff, hentries, fileAt_keptTree_iff]
  constructor
  · intro h
    simp only [List.mem_cons, Prod.mk.injEq, List.not_mem_nil, or_false] at h
    rcases h with ⟨rfl, rfl⟩ | ⟨rfl, rfl⟩ | ⟨rfl, rfl⟩ <;> decide +kernel
  · intro h
    simp only [List.mem_cons, Prod.mk.injEq, List.not_mem_nil, or_false] at h
    rcases h with ⟨hcut, rfl⟩ | ⟨hcut, rfl⟩ | ⟨hcut, rfl⟩ <;> rw [hpath, hcut] <;> decide +kernel

theorem the_kept_files_are_listed_alike :
    Mirrors keptDisk keptTree keptFiles ∧ OfNames "" ∧
      (∀ entries, FileStore.list keptDisk "" = .ok entries ↔
        FileStore.list keptFiles "" = .ok entries) ∧
      FileStore.list keptDisk "" =
        .ok [⟨"a", false, by decide⟩, ⟨"a.d", true, by decide⟩, ⟨"b", false, by decide⟩] := by
  have hmirrors : Mirrors keptDisk keptTree keptFiles := by
    refine ⟨rfl, rfl, sound_keptTree, ?_, by decide +kernel, by decide +kernel⟩
    intro key contents
    exact get?_keptFiles_iff
  have hpath : OfNames "" := by decide
  obtain ⟨_, hlist, _⟩ :=
    a_disk_and_a_store_in_memory_with_the_same_files_answer_alike hmirrors hpath
  refine ⟨hmirrors, hpath, hlist, ?_⟩
  rw [hlist]
  decide +kernel

-- The same files, below an absolute root.
example : FileStore.read (⟨"/x", keptDisk.store⟩ : RootedStore FileTree) "a.d/c" = .ok [1] ∧
    FileStore.read keptFiles "a.d/c" = .ok [1] := by decide +kernel

end LayerLint
