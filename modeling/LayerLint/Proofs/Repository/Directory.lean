-- The directories of the layout in a store of files. Nothing but the segments of the paths counts: a
-- directory has another one in it if a path goes on below it, and a file if a path ends there.
import LayerLint.Proofs.Repository.Load

namespace LayerLint

/-! ## Directories of the layout -/

/-- The directories that are listed when a repository is loaded. -/
inductive LayoutDirectory where
  | installations
  | defaultApps
  | installationApps (installation : String)
  | fragments

namespace LayoutDirectory

def segments : LayoutDirectory → List String
  | installations => ["installations"]
  | defaultApps => ["default", "apps"]
  | installationApps installation => ["installations", installation, "apps"]
  | fragments => ["include"]

def path (d : LayoutDirectory) : String := Layout.pathOf d.segments

/-- Whether the names of a directory are segments. -/
def NamesPlain : LayoutDirectory → Prop
  | installationApps installation => Plain installation
  | _ => True

theorem path_installations : installations.path = Layout.installations := by
  simp [path, segments, Layout.installations, Layout.pathOf, Text.paste]

theorem path_fragments : fragments.path = Layout.fragments := by
  simp [path, segments, Layout.fragments, Layout.pathOf, Text.paste]

theorem segments_ne_nil (d : LayoutDirectory) : d.segments ≠ [] := by
  cases d <;> exact List.cons_ne_nil _ _

theorem plain_of_mem_segments {d : LayoutDirectory} (h : d.NamesPlain) :
    ∀ segment ∈ d.segments, Plain segment := by
  cases d with
  | installationApps installation =>
    have hname : '/' ∉ installation.toList := h
    simp [segments, Plain, hname]
  | _ => simp [segments, Plain]

/-- The path of a directory has no slash at its ends. -/
theorem ends_path (d : LayoutDirectory) :
    ∃ first middle last, d.path.toList = first :: (middle ++ [last]) ∧ first ≠ '/' ∧
      last ≠ '/' := by
  cases d with
  | installations =>
    exact ⟨'i', "nstallation".toList, 's', by
      simp [path, segments, Layout.pathOf, Text.paste], by decide, by decide⟩
  | defaultApps =>
    exact ⟨'d', "efault/app".toList, 's', by
      simp [path, segments, Layout.pathOf, Text.paste], by decide, by decide⟩
  | installationApps installation =>
    exact ⟨'i', "nstallations/".toList ++ installation.toList ++ "/app".toList, 's', by
      simp [path, segments, Layout.pathOf, Text.paste], by decide, by decide⟩
  | fragments =>
    exact ⟨'i', "nclud".toList, 'e', by
      simp [path, segments, Layout.pathOf, Text.paste], by decide, by decide⟩

end LayoutDirectory

/-! ## Paths -/

theorem path_layerPlace_eq_cons (place : LayerPlace) :
    ∃ c rest, place.path.toList = c :: rest ∧ c ≠ '/' := by
  rcases place with _ | i | i <;>
    simp [LayerPlace.path, LayerPlace.segments, Layout.segmentsOf, Layout.pathOf, Text.paste]

theorem path_templatePlace_eq_cons (place : TemplatePlace) :
    ∃ c rest, place.path.toList = c :: rest ∧ c ≠ '/' := by
  rcases place with ⟨a, _ | _⟩ | ⟨i, a, _ | _⟩ | n <;>
    simp [TemplatePlace.path, TemplatePlace.segments, Layout.segmentsOf, Layout.pathOf,
      Text.paste, Layout.fragments]

/-- The segments of a path are plain. -/
theorem plain_of_mem_cutString {path segment : String} (h : segment ∈ Text.cutString '/' path) :
    Plain segment := by
  obtain ⟨part, hpart, rfl⟩ := List.mem_map.1 h
  rw [Plain, String.toList_ofList]
  exact Text.not_mem_of_mem_cut hpart

namespace MemoryStore

/-- A path that does not begin with a slash is kept as it is. -/
theorem fileKey_eq {path : String} {c : Char} {rest : List Char} (h : path.toList = c :: rest)
    (hc : c ≠ '/') : fileKey path = path := by
  rw [fileKey, Text.dropLeading, h, List.dropWhile_cons_of_neg (by simpa using hc), ← h,
    String.ofList_toList]

/-- The paths below a directory begin with its path and a slash. -/
theorem directoryStart_eq (d : LayoutDirectory) :
    directoryKey d.path = d.path.toList ∧ directoryStart d.path = d.path.toList ++ ['/'] := by
  obtain ⟨first, middle, last, hends, hfirst, hlast⟩ := d.ends_path
  have hkey : directoryKey d.path = d.path.toList := by
    rw [directoryKey, Text.dropLeading, hends,
      List.dropWhile_cons_of_neg (by simpa using hfirst), Text.dropTrailing, ← List.cons_append,
      List.reverse_append, List.reverse_singleton, List.singleton_append,
      List.dropWhile_cons_of_neg (by simpa using hlast)]
    simp
  exact ⟨hkey, by rw [directoryStart, hkey, hends]⟩

/-- What is below a directory has the segments of the directory first. -/
theorem cutString_below {segments : List String} (hne : segments ≠ [])
    (hplain : ∀ segment ∈ segments, Plain segment) {rest : List Char} {path : String}
    (h : path.toList = (Layout.pathOf segments).toList ++ '/' :: rest) :
    Text.cutString '/' path = segments ++ (Text.cut '/' rest).map String.ofList := by
  have hcut := Layout.cutString_pathOf hne hplain
  rw [Text.cutString] at hcut
  rw [Text.cutString, h, Text.cut_append_cons, List.map_append, hcut]

/-! ## Directories by their segments -/

variable {m : MemoryStore} {path name : String} {segments : List String}

/-- What the paths below a directory begin with, by the segments of the directory. -/
def startOf (segments : List String) : List Char :=
  segments.flatMap fun segment => segment.toList ++ ['/']

/-- A path leads to a directory, which is given by its segments. -/
structure LeadsTo (path : String) (segments : List String) : Prop where
  start : directoryStart path = startOf segments
  plain : ∀ segment ∈ segments, Plain segment

theorem toList_pathOf_concat (h : segments ≠ []) :
    (Layout.pathOf segments).toList ++ ['/'] = startOf segments := by
  rw [Layout.pathOf, String.toList_ofList]
  induction segments with
  | nil => exact absurd rfl h
  | cons segment segments ih =>
    cases segments with
    | nil => simp [Text.paste, startOf]
    | cons next more =>
      have hrest := ih (List.cons_ne_nil _ _)
      simp only [List.map_cons, Text.paste, startOf, List.flatMap_cons, List.append_assoc,
        List.cons_append, List.nil_append] at hrest ⊢
      rw [hrest]

theorem cut_startOf (hplain : ∀ segment ∈ segments, Plain segment) (rest : List Char) :
    (Text.cut '/' (startOf segments ++ rest)).map String.ofList =
      segments ++ (Text.cut '/' rest).map String.ofList := by
  induction segments with
  | nil => rfl
  | cons segment segments ih =>
    obtain ⟨hsegment, hrest⟩ := List.forall_mem_cons.1 hplain
    have hstart : startOf (segment :: segments) ++ rest =
        segment.toList ++ '/' :: (startOf segments ++ rest) := by
      simp [startOf]
    rw [hstart, Text.cut_append _ hsegment, List.map_cons, ih hrest, String.ofList_toList,
      List.cons_append]

theorem leadsTo_layoutDirectory {d : LayoutDirectory} (hd : d.NamesPlain) :
    LeadsTo d.path d.segments where
  start := (directoryStart_eq d).2.trans (toList_pathOf_concat d.segments_ne_nil)
  plain := LayoutDirectory.plain_of_mem_segments hd

/-! ## What is in a directory -/

/-- Some file is stored below a directory, which is given by its segments. -/
def StoredBelow (m : MemoryStore) (segments : List String) : Prop :=
  ∃ path ∈ m.files.keys, ∃ more, more ≠ [] ∧ Text.cutString '/' path = segments ++ more

theorem StoredBelow.plain {segments : List String} (h : m.StoredBelow segments) :
    ∀ segment ∈ segments, Plain segment := by
  obtain ⟨path, _, more, _, hcut⟩ := h
  intro segment hsegment
  have hmem : segment ∈ Text.cutString '/' path := hcut ▸ List.mem_append_left _ hsegment
  exact plain_of_mem_cutString hmem

/-- What is stored below a directory is stored below the one that holds it. -/
theorem StoredBelow.of_append {segments : List String} (others : List String)
    (h : m.StoredBelow (segments ++ others)) : m.StoredBelow segments := by
  obtain ⟨path, hpath, more, hmore, hcut⟩ := h
  refine ⟨path, hpath, others ++ more, ?_, by rw [hcut, List.append_assoc]⟩
  simp [hmore]

/-- A path that goes on below a directory shows its next segment there: as another directory if
more segments follow, and else as a file. -/
theorem shown_eq (rest : List Char) :
    ∃ more, (Text.cut '/' rest).map String.ofList = (shown rest).name :: more ∧
      ((shown rest).isDirectory = true ↔ more ≠ []) := by
  unfold shown
  dsimp only
  cases hcut : Text.cut '/' rest with
  | nil => exact absurd hcut (Text.cut_ne_nil '/' rest)
  | cons first more =>
    refine ⟨more.map String.ofList, rfl, ?_⟩
    cases more with
    | nil => simp
    | cons next others => simp

/-- A directory has another one in it if it holds a path that goes on below that. -/
theorem listsDirectory_iff_holds :
    ListsDirectory m path name ↔
      ∃ rest, m.Holds path rest ∧ (shown rest).name = name ∧
        (shown rest).isDirectory = true := by
  constructor
  · rintro ⟨entry, hlists, hdirectory, rfl⟩
    exact (lists_iff.1 hlists).2.1 hdirectory
  · rintro ⟨rest, hholds, rfl, hdirectory⟩
    refine ⟨⟨(shown rest).name, true, (shown rest).plain⟩, lists_iff.2 ⟨⟨rest, hholds, rfl⟩, ?_⟩,
      rfl, rfl⟩
    exact ⟨fun _ => ⟨rest, hholds, rfl, hdirectory⟩, fun _ => rfl⟩

/-- The text that segments below a directory make. -/
theorem exists_rest (more : List String) (hplain : ∀ segment ∈ name :: more, Plain segment) :
    ∃ rest, (Text.cut '/' rest).map String.ofList = name :: more :=
  ⟨_, Layout.cutString_pathOf (List.cons_ne_nil _ _) hplain⟩

namespace LeadsTo

theorem plain_concat (h : LeadsTo path segments) (hname : Plain name) :
    ∀ segment ∈ segments ++ [name], Plain segment :=
  List.forall_mem_append.2 ⟨h.plain, List.forall_mem_singleton.2 hname⟩

/-- A directory holds what follows its segments. -/
theorem holds_iff (h : LeadsTo path segments) {rest : List Char} :
    m.Holds path rest ↔ ∃ key ∈ m.files.keys,
      Text.cutString '/' key = segments ++ (Text.cut '/' rest).map String.ofList := by
  unfold Holds
  rw [h.start]
  refine exists_congr fun key => and_congr_right fun _ => ?_
  rw [← cut_startOf h.plain, Text.cutString]
  constructor
  · intro heq
    rw [heq]
  · intro hcut
    rw [← Layout.toList_pathOf_cut key.toList, hcut, Layout.toList_pathOf_cut]

/-- More segments are stored below a directory if it holds their text. -/
theorem exists_holds_iff (h : LeadsTo path segments) {more : List String} :
    (∃ rest, m.Holds path rest ∧ (Text.cut '/' rest).map String.ofList = name :: more) ↔
      ∃ key ∈ m.files.keys, Text.cutString '/' key = segments ++ name :: more := by
  constructor
  · rintro ⟨rest, hholds, hrest⟩
    exact hrest ▸ h.holds_iff.1 hholds
  · rintro ⟨key, hkey, hcut⟩
    obtain ⟨rest, hrest⟩ := exists_rest more fun segment hsegment =>
      plain_of_mem_cutString (hcut ▸ List.mem_append_right segments hsegment)
    exact ⟨rest, h.holds_iff.2 ⟨key, hkey, hrest ▸ hcut⟩, hrest⟩

theorem storedBelow_iff (h : LeadsTo path segments) :
    m.StoredBelow (segments ++ [name]) ↔
      ∃ rest, m.Holds path rest ∧ (shown rest).name = name ∧
        (shown rest).isDirectory = true := by
  constructor
  · rintro ⟨key, hkey, more, hmore, hcut⟩
    rw [List.append_assoc, List.singleton_append] at hcut
    obtain ⟨rest, hholds, hrest⟩ := h.exists_holds_iff.2 ⟨key, hkey, hcut⟩
    obtain ⟨others, hothers, hdirectory⟩ := shown_eq rest
    obtain ⟨hname, rfl⟩ := List.cons.inj (hothers.symm.trans hrest)
    exact ⟨rest, hholds, hname, hdirectory.2 hmore⟩
  · rintro ⟨rest, hholds, rfl, hdirectory⟩
    obtain ⟨more, hmore, hiff⟩ := shown_eq rest
    obtain ⟨key, hkey, hcut⟩ := h.exists_holds_iff.1 ⟨rest, hholds, hmore⟩
    refine ⟨key, hkey, more, hiff.1 hdirectory, ?_⟩
    rw [hcut, List.append_assoc, List.singleton_append]

theorem stored_iff (h : LeadsTo path segments) :
    Plain name ∧ Layout.pathOf (segments ++ [name]) ∈ m.files.keys ↔
      ∃ rest, m.Holds path rest ∧ (shown rest).name = name ∧
        (shown rest).isDirectory = false := by
  constructor
  · rintro ⟨hname, hstored⟩
    obtain ⟨rest, hholds, hrest⟩ := h.exists_holds_iff.2
      ⟨_, hstored, Layout.cutString_pathOf (by simp) (h.plain_concat hname)⟩
    obtain ⟨others, hothers, hdirectory⟩ := shown_eq rest
    obtain ⟨hshown, rfl⟩ := List.cons.inj (hothers.symm.trans hrest)
    exact ⟨rest, hholds, hshown, by simpa using hdirectory⟩
  · rintro ⟨rest, hholds, rfl, hfile⟩
    obtain ⟨more, hmore, hiff⟩ := shown_eq rest
    have hlast : more = [] := by simpa [hfile] using hiff
    subst hlast
    obtain ⟨key, hkey, hcut⟩ := h.exists_holds_iff.1 ⟨rest, hholds, hmore⟩
    refine ⟨(shown rest).plain, ?_⟩
    rwa [← hcut, Layout.pathOf_cutString]

/-- A directory has another one in it if a file is stored below that. -/
theorem listsDirectory_iff (h : LeadsTo path segments) :
    ListsDirectory m path name ↔ m.StoredBelow (segments ++ [name]) := by
  rw [h.storedBelow_iff, listsDirectory_iff_holds]

/-- A directory has a file in it if the file is stored and nothing is below it. -/
theorem listsFile_iff (h : LeadsTo path segments) :
    ListsFile m path name ↔
      (Plain name ∧ Layout.pathOf (segments ++ [name]) ∈ m.files.keys) ∧
        ¬m.StoredBelow (segments ++ [name]) := by
  rw [h.stored_iff, h.storedBelow_iff]
  constructor
  · rintro ⟨entry, hlists, hfile, rfl⟩
    obtain ⟨⟨rest, hholds, hname⟩, hiff⟩ := lists_iff.1 hlists
    have hnone := mt hiff.2 (by simp [hfile])
    refine ⟨⟨rest, hholds, hname, ?_⟩, hnone⟩
    rw [← Bool.not_eq_true]
    exact fun hdirectory => hnone ⟨rest, hholds, hname, hdirectory⟩
  · rintro ⟨⟨rest, hholds, rfl, hfile⟩, hnone⟩
    refine ⟨⟨(shown rest).name, false, (shown rest).plain⟩, lists_iff.2 ⟨⟨rest, hholds, rfl⟩, ?_⟩,
      rfl, rfl⟩
    exact ⟨nofun, fun hsome => absurd hsome hnone⟩

end LeadsTo

end MemoryStore

end LayerLint
