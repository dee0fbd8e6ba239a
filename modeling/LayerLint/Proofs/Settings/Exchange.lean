-- The file that settings are kept in stands beside the layout. Other contents of it are other
-- settings, but no other repository: the listings do not look at contents, and the first segment of
-- every place that is read leads elsewhere.
import LayerLint.Proofs.FileStore.Disk
import LayerLint.Proofs.Repository.Answers
import LayerLint.Settings.File
import Mathlib.Data.List.Sort

namespace LayerLint

/-! ## Other contents of a file -/

theorem SortedMap.keys_insert_congr {α : Type} (m : SortedMap α) (key : String) (v w : α) :
    (m.insert key v).keys = (m.insert key w).keys := by
  refine (pairwise_keys _).eq_of_mem_iff (pairwise_keys _) fun other => ?_
  rw [mem_keys_insert_iff, mem_keys_insert_iff]

namespace MemoryStore

variable {m : MemoryStore} {path other : String} {contents changed : List UInt8}

theorem keys_insert_congr (m : MemoryStore) (path : String) (contents changed : List UInt8) :
    (m.insert path contents).files.keys = (m.insert path changed).files.keys :=
  SortedMap.keys_insert_congr _ _ _ _

theorem list_insert_congr : FileStore.list (m.insert path contents) other =
    FileStore.list (m.insert path changed) other := by
  have hlisting : (m.insert path contents).listing other =
      (m.insert path changed).listing other := by
    rw [listing_eq, listing_eq, keys_insert_congr m path contents changed]
  simp only [FileStore.list, hlisting]

theorem has_insert_congr : FileStore.has (m.insert path contents) other =
    FileStore.has (m.insert path changed) other := by
  rw [Bool.eq_iff_iff, has_iff, has_iff]
  simp only [Holds, keys_insert_congr m path contents changed]

theorem read_insert_congr (h : fileKey other ≠ fileKey path) :
    FileStore.read (m.insert path contents) other =
      FileStore.read (m.insert path changed) other := by
  simp only [FileStore.read, get?_insert, if_neg h]

/-- Slashes in front are dropped up to the first other character. -/
theorem toList_fileKey_append (start : String) {name : String} {c : Char} {rest : List Char}
    (hname : name.toList = c :: rest) (hc : c ≠ '/') :
    (fileKey (start ++ name)).toList = (fileKey start).toList ++ name.toList := by
  have hkeep : name.toList.dropWhile (· == '/') = name.toList := by
    rw [hname, List.dropWhile_cons_of_neg (by simpa using hc)]
  simp only [fileKey, Text.dropLeading, String.toList_ofList, String.toList_append,
    List.dropWhile_append, hkeep]
  split
  · rename_i hslashes
    rw [List.isEmpty_iff.1 hslashes, List.nil_append]
  · rfl

end MemoryStore

/-! ## Places behind a root -/

theorem Settings.toList_fileName : fileName.toList = '.' :: "configlint.yaml".toList := rfl

/-- What the paths of the layout begin with. -/
def Layout.tops : List String := ["default", "installations", "include"]

theorem Layout.exists_toList_eq_cons {top : String} (h : top ∈ Layout.tops) :
    ∃ c rest, top.toList = c :: rest ∧ c ≠ '/' ∧ c ≠ '.' := by
  simp only [Layout.tops, List.mem_cons, List.not_mem_nil, or_false] at h
  rcases h with rfl | rfl | rfl <;> exact ⟨_, _, rfl, by decide, by decide⟩

theorem TemplatePlace.exists_segments_eq {place : TemplatePlace} (h : place.NamesPlain) :
    ∃ top ∈ Layout.tops, ∃ rest, FileStore.segments place.path = top :: rest := by
  rw [FileStore.segments, cutString_path h]
  rcases place with ⟨app, _ | _⟩ | ⟨i, app, _ | _⟩ | name <;> exact ⟨_, by decide, _, rfl⟩

theorem LayerPlace.exists_segments_eq {place : LayerPlace} (h : place.NamesPlain) :
    ∃ top ∈ Layout.tops, ∃ rest, FileStore.segments place.path = top :: rest := by
  rw [FileStore.segments, cutString_path h]
  rcases place with _ | i | i <;> exact ⟨_, by decide, _, rfl⟩

namespace RootedStore

/-- All names in a directory come behind one start. -/
theorem exists_start (root : String) : ∃ start, ∀ name, join root name = start ++ name := by
  unfold join
  split
  · exact ⟨"", fun _ => String.empty_append.symm⟩
  · split
    · exact ⟨root, fun _ => rfl⟩
    · exact ⟨root ++ "/", fun _ => rfl⟩

/-- No path of the layout leads to the settings, wherever the repository begins. -/
theorem fileKey_ne_of_mem_tops {root top : String} (htop : top ∈ Layout.tops)
    (rest : List String) :
    MemoryStore.fileKey ((top :: rest).foldl join root) ≠
      MemoryStore.fileKey (join root Settings.fileName) := by
  intro heq
  obtain ⟨c, more, hc, hslash, hdot⟩ := Layout.exists_toList_eq_cons htop
  obtain ⟨start, hstart⟩ := exists_start root
  obtain ⟨tail, htail⟩ := exists_foldl_join_eq (join root top) rest
  have htop' : (top ++ tail).toList = c :: (more ++ tail.toList) := by
    rw [String.toList_append, hc, List.cons_append]
  have hkeys := congrArg String.toList heq
  rw [List.foldl_cons, htail, hstart, hstart, String.append_assoc,
    MemoryStore.toList_fileKey_append start htop' hslash,
    MemoryStore.toList_fileKey_append start Settings.toList_fileName (by decide), htop'] at hkeys
  exact hdot (List.cons.inj (List.append_cancel_left hkeys)).1

/-- A file of the layout is read as before if the settings have other contents. -/
theorem read_insert_settings {m : MemoryStore} {root path top : String} {rest : List String}
    {contents changed : List UInt8} (htop : top ∈ Layout.tops)
    (hsegments : FileStore.segments path = top :: rest) :
    FileStore.read (mk root (m.insert (join root Settings.fileName) contents)) path =
      FileStore.read (mk root (m.insert (join root Settings.fileName) changed)) path := by
  refine MemoryStore.read_insert_congr ?_
  rw [place, hsegments]
  exact fileKey_ne_of_mem_tops htop rest

end RootedStore

/-! ## Repositories beside the settings -/

open Repository

/-- A store answers as another one does if it has the same directories and the files that are read
have the same contents. -/
theorem AnswersAs.of_eq {σ τ : Type} [FileStore σ] [FileStore τ] {a : σ} {b : τ}
    (hlayer : ∀ place : LayerPlace, place.IsListed a →
      FileStore.read a place.path = FileStore.read b place.path)
    (htemplate : ∀ place : TemplatePlace, place.IsListed a →
      FileStore.read a place.path = FileStore.read b place.path)
    (hlist : ∀ path, FileStore.list a path = FileStore.list b path)
    (hhas : ∀ path, FileStore.has a path = FileStore.has b path) : AnswersAs a b := by
  have hentries : ∀ path, entriesOf a path = entriesOf b path := fun path => by
    rw [entriesOf, entriesOf, hlist]
  have hdirectories : ∀ path, subdirectories a path = subdirectories b path := fun path => by
    rw [subdirectories, subdirectories, hentries]
  have happs : ∀ path, subdirectoriesIfAny a path = subdirectoriesIfAny b path := fun path => by
    rw [subdirectoriesIfAny, subdirectoriesIfAny, hhas, hdirectories]
  exact
    { layer := hlayer
      template := htemplate
      installations := fun _ hnames => hdirectories _ ▸ hnames
      defaultApps := fun _ hnames => hdirectories _ ▸ hnames
      installationApps := fun _ _ _ hnames => happs _ ▸ hnames
      fragments := ⟨hhas _, fun _ hfound => hentries _ ▸ hfound⟩ }

/-- Stores in which the settings of a repository have different contents hold one repository. -/
theorem answersAs_of_insert_settings (m : MemoryStore) (root : String)
    (contents changed : List UInt8) :
    AnswersAs (RootedStore.mk root (m.insert (RootedStore.join root Settings.fileName) contents))
      (RootedStore.mk root (m.insert (RootedStore.join root Settings.fileName) changed)) := by
  refine AnswersAs.of_eq (fun place hplace => ?_) (fun place hplace => ?_)
    (fun path => MemoryStore.list_insert_congr) (fun path => MemoryStore.has_insert_congr)
  · obtain ⟨top, htop, rest, hsegments⟩ := LayerPlace.exists_segments_eq hplace.namesPlain
    exact RootedStore.read_insert_settings htop hsegments
  · obtain ⟨top, htop, rest, hsegments⟩ := TemplatePlace.exists_segments_eq hplace.namesPlain
    exact RootedStore.read_insert_settings htop hsegments

namespace Settings

/-- The path of the settings does not end with a slash. -/
theorem ofList_directoryKey_join (root : String) :
    String.ofList (MemoryStore.directoryKey (RootedStore.join root fileName)) =
      MemoryStore.fileKey (RootedStore.join root fileName) := by
  obtain ⟨start, hstart⟩ := RootedStore.exists_start root
  have hkey := MemoryStore.toList_fileKey_append start toList_fileName (by decide)
  have hlast : (MemoryStore.fileKey start).toList ++ fileName.toList =
      (MemoryStore.fileKey start).toList ++ ".configlint.yam".toList ++ ['l'] := by
    rw [List.append_assoc]
    rfl
  rw [MemoryStore.fileKey, String.toList_ofList, hlast] at hkey
  rw [MemoryStore.directoryKey, MemoryStore.fileKey, hstart, hkey,
    dropTrailing_concat, if_neg (by decide)]

/-- The settings that a repository keeps are those that the contents of their file stand for. -/
theorem discover_insert (m : MemoryStore) (root : String) (contents : List UInt8) :
    discover (m.insert (RootedStore.join root fileName) contents) root none =
      (ofOctets contents).mapError (FileError.mk (RootedStore.join root fileName)) := by
  have hthere : FileStore.has (m.insert (RootedStore.join root fileName) contents)
      (RootedStore.join root fileName) = true := by
    refine MemoryStore.has_iff.2 (.inl ?_)
    rw [ofList_directoryKey_join]
    exact SortedMap.mem_keys_insert_iff.2 (.inl rfl)
  have hread : FileStore.read (m.insert (RootedStore.join root fileName) contents)
      (RootedStore.join root fileName) = .ok contents :=
    MemoryStore.read_eq_ok_iff.2 (by rw [MemoryStore.insert, SortedMap.get?_insert, if_pos rfl])
  simp only [discover, hthere, if_true, load, hread]
  cases ofOctets contents with
  | error fault => rfl
  | ok settings => rfl

end Settings

end LayerLint
