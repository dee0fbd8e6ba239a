-- Stores that differ in one installation only. Loading asks a store for the files at their places
-- and for the entries of a few directories; where two stores answer these questions alike, they
-- hold the same repository.
import LayerLint.Proofs.Repository.Directory

namespace LayerLint

/-! ## What belongs to an installation -/

/-- The installation that a template belongs to by its place. -/
def TemplatePlace.installation? : TemplatePlace → Option String
  | .default _ _ => none
  | .patch installation _ _ => some installation
  | .fragment _ => none

/-- The installation that a layer belongs to by its place. -/
def LayerPlace.installation? : LayerPlace → Option String
  | .base => none
  | .override installation => some installation
  | .secret installation => some installation

/-- What the paths below the directory of an installation begin with. -/
def Layout.installationStart (name : String) : String := Layout.pathOf ["installations", name, ""]

/-- Two stores answer alike wherever loading looks, but for the files below the directory of one
installation and for the entry of this directory. -/
structure AgreeOutside {σ τ : Type} [FileStore σ] [FileStore τ] (name : String) (a : σ) (b : τ) :
    Prop where
  layer : ∀ place : LayerPlace, place.NamesPlain → place.installation? ≠ some name →
    FileStore.read a place.path = FileStore.read b place.path
  template : ∀ place : TemplatePlace, place.NamesPlain → place.installation? ≠ some name →
    FileStore.read a place.path = FileStore.read b place.path
  installations : ∀ entry : DirectoryEntry, entry.name ≠ name →
    (Lists a Layout.installations entry ↔ Lists b Layout.installations entry)
  defaultApps : ∀ entry, Lists a Layout.defaultApps entry ↔ Lists b Layout.defaultApps entry
  patchedApps : ∀ other, Plain other → other ≠ name →
    (FileStore.has a (Layout.installationApps other) =
        FileStore.has b (Layout.installationApps other)) ∧
      ∀ entry, Lists a (Layout.installationApps other) entry ↔
        Lists b (Layout.installationApps other) entry
  fragments : (FileStore.has a Layout.fragments = FileStore.has b Layout.fragments) ∧
    ∀ entry, Lists a Layout.fragments entry ↔ Lists b Layout.fragments entry

/-! ## Stores of files -/

namespace MemoryStore

theorem toList_installationStart (name : String) :
    (Layout.installationStart name).toList =
      "installations".toList ++ '/' :: (name.toList ++ ['/']) := by
  simp [Layout.installationStart, Layout.pathOf, Text.paste]

/-- The segments of a path below the directory of an installation. -/
theorem cutString_of_below {name : String} (hname : Plain name) {path : String}
    (h : (Layout.installationStart name).toList <+: path.toList) :
    ∃ more, Text.cutString '/' path = "installations" :: name :: more := by
  obtain ⟨rest, hrest⟩ := h
  refine ⟨(Text.cut '/' rest).map String.ofList, ?_⟩
  rw [Text.cutString, ← hrest, toList_installationStart, List.append_assoc, List.cons_append,
    List.append_assoc, Text.cut_append _ (by decide), List.singleton_append,
    Text.cut_append _ hname]
  simp

variable {m n : MemoryStore} {name : String}

/-- Stores with the same files but for those below the directory of one installation. -/
def SameFilesOutside (name : String) (m n : MemoryStore) : Prop :=
  ∀ path, Text.beginsWith path (Layout.installationStart name) = false →
    m.files.get? path = n.files.get? path

namespace SameFilesOutside

theorem get?_eq (h : SameFilesOutside name m n) {path : String}
    (hpath : ¬(Layout.installationStart name).toList <+: path.toList) :
    m.files.get? path = n.files.get? path :=
  h path (by rw [Text.beginsWith, ← Bool.not_eq_true, List.isPrefixOf_iff_prefix]; exact hpath)

theorem refl (m : MemoryStore) : SameFilesOutside name m m := fun _ _ => rfl

/-- A file below the directory may be added or replaced. -/
theorem insert (h : SameFilesOutside name m n) {path : String} (contents : List UInt8)
    (hpath : Text.beginsWith (fileKey path) (Layout.installationStart name) = true) :
    SameFilesOutside name m (n.insert path contents) := by
  intro other hother
  have hne : other ≠ fileKey path := by
    rintro rfl
    exact absurd hpath (by simp [hother])
  rw [h other hother, MemoryStore.insert, SortedMap.get?_insert, if_neg hne]

theorem mem_keys_iff (h : SameFilesOutside name m n) {path : String}
    (hpath : ¬(Layout.installationStart name).toList <+: path.toList) :
    path ∈ m.files.keys ↔ path ∈ n.files.keys := by
  rw [SortedMap.mem_keys_iff, SortedMap.mem_keys_iff, h.get?_eq hpath]

/-- A file that does not stand below the directory is read alike. -/
theorem read_eq (h : SameFilesOutside name m n) {path : String} {c : Char} {rest : List Char}
    (hpath : path.toList = c :: rest) (hc : c ≠ '/')
    (hout : ¬(Layout.installationStart name).toList <+: path.toList) :
    FileStore.read m path = FileStore.read n path := by
  simp only [FileStore.read, get?, fileKey_eq hpath hc, h.get?_eq hout]

theorem holds_iff (h : SameFilesOutside name m n) {path : String} {rest : List Char}
    (hout : ¬(Layout.installationStart name).toList <+: directoryStart path ++ rest) :
    m.Holds path rest ↔ n.Holds path rest := by
  unfold Holds
  constructor
  · rintro ⟨key, hkey, heq⟩
    exact ⟨key, (h.mem_keys_iff (heq ▸ hout)).1 hkey, heq⟩
  · rintro ⟨key, hkey, heq⟩
    exact ⟨key, (h.mem_keys_iff (heq ▸ hout)).2 hkey, heq⟩

/-- An entry that is shown by files outside of the directory only is listed alike. -/
theorem lists_iff (h : SameFilesOutside name m n) {path : String} {entry : DirectoryEntry}
    (hout : ∀ rest, (shown rest).name = entry.name →
      ¬(Layout.installationStart name).toList <+: directoryStart path ++ rest) :
    Lists m path entry ↔ Lists n path entry := by
  have hholds : ∀ rest, (m.Holds path rest ∧ (shown rest).name = entry.name) ↔
      (n.Holds path rest ∧ (shown rest).name = entry.name) :=
    fun rest => and_congr_left fun hname => h.holds_iff (hout rest hname)
  simp only [MemoryStore.lists_iff, ← and_assoc, hholds]

theorem has_eq (h : SameFilesOutside name m n) {path : String}
    (hkey : directoryKey path = path.toList)
    (hpath : ¬(Layout.installationStart name).toList <+: path.toList)
    (hout : ∀ rest, ¬(Layout.installationStart name).toList <+: directoryStart path ++ rest) :
    FileStore.has m path = FileStore.has n path := by
  rw [Bool.eq_iff_iff, has_iff, has_iff, hkey, String.ofList_toList, h.mem_keys_iff hpath]
  simp only [h.holds_iff (hout _)]

end SameFilesOutside

/-! ## Places and directories outside of an installation -/

theorem not_below_of_layerPlace (hname : Plain name) {place : LayerPlace} (h : place.NamesPlain)
    (hplace : place.installation? ≠ some name) :
    ¬(Layout.installationStart name).toList <+: place.path.toList := by
  intro hbelow
  obtain ⟨more, hmore⟩ := cutString_of_below hname hbelow
  rw [LayerPlace.cutString_path h] at hmore
  rcases place with _ | i | i <;>
    simp_all [LayerPlace.segments, Layout.segmentsOf, LayerPlace.installation?]

theorem not_below_of_templatePlace (hname : Plain name) {place : TemplatePlace}
    (h : place.NamesPlain) (hplace : place.installation? ≠ some name) :
    ¬(Layout.installationStart name).toList <+: place.path.toList := by
  intro hbelow
  obtain ⟨more, hmore⟩ := cutString_of_below hname hbelow
  rw [TemplatePlace.cutString_path h] at hmore
  rcases place with ⟨a, _ | _⟩ | ⟨i, a, _ | _⟩ | n <;>
    simp_all [TemplatePlace.segments, Layout.segmentsOf, TemplatePlace.installation?,
      Layout.fragments]

/-- A directory whose first segments are not those of an installation has nothing in common with
what is below the installation. -/
theorem not_below_of_directory (hname : Plain name) {segments : List String} (hne : segments ≠ [])
    (hplain : ∀ segment ∈ segments, Plain segment)
    (hout : ∀ more others, segments ++ more ≠ "installations" :: name :: others)
    (rest : List Char) :
    ¬(Layout.installationStart name).toList <+:
      (Layout.pathOf segments).toList ++ '/' :: rest := by
  intro hbelow
  obtain ⟨path, hpath⟩ : ∃ path : String,
      path.toList = (Layout.pathOf segments).toList ++ '/' :: rest := ⟨_, String.toList_ofList⟩
  rw [← hpath] at hbelow
  obtain ⟨others, hothers⟩ := cutString_of_below hname hbelow
  rw [cutString_below hne hplain hpath] at hothers
  exact hout _ _ hothers

/-- A file in the directory of all installations that is not below a certain one shows another
name there. -/
theorem not_below_of_shown (hname : Plain name) {rest : List Char} (h : (shown rest).name ≠ name) :
    ¬(Layout.installationStart name).toList <+:
      (Layout.pathOf ["installations"]).toList ++ '/' :: rest := by
  intro hbelow
  obtain ⟨path, hpath⟩ : ∃ path : String,
      path.toList = (Layout.pathOf ["installations"]).toList ++ '/' :: rest :=
    ⟨_, String.toList_ofList⟩
  rw [← hpath] at hbelow
  obtain ⟨others, hothers⟩ := cutString_of_below hname hbelow
  rw [cutString_below (by simp) (by simp [Plain]) hpath, List.singleton_append] at hothers
  have hcut := (List.cons.inj hothers).2
  refine h ?_
  cases hrest : Text.cut '/' rest with
  | nil => exact absurd hrest (Text.cut_ne_nil '/' rest)
  | cons first more =>
    rw [hrest, List.map_cons] at hcut
    show String.ofList ((Text.cut '/' rest).headD []) = name
    rw [hrest, List.headD_cons, (List.cons.inj hcut).1]

/-- A directory with other segments is there and listed alike. -/
theorem SameFilesOutside.directory (h : SameFilesOutside name m n) (hname : Plain name)
    (d : LayoutDirectory) (hd : d.NamesPlain)
    (hout : ∀ more others, d.segments ++ more ≠ "installations" :: name :: others) :
    FileStore.has m d.path = FileStore.has n d.path ∧
      ∀ entry, Lists m d.path entry ↔ Lists n d.path entry := by
  obtain ⟨hkey, hstart⟩ := directoryStart_eq d
  have hbelow : ∀ rest, ¬(Layout.installationStart name).toList <+:
      directoryStart d.path ++ rest := by
    intro rest
    rw [hstart, List.append_assoc, List.singleton_append]
    exact not_below_of_directory hname d.segments_ne_nil
      (LayoutDirectory.plain_of_mem_segments hd) hout rest
  have hself : ¬(Layout.installationStart name).toList <+: d.path.toList :=
    fun hbegins => hbelow [] (hbegins.trans (by simp [hstart]))
  exact ⟨h.has_eq hkey hself hbelow, fun entry => h.lists_iff fun rest _ => hbelow rest⟩

/-- Stores with the same files outside of the directory of an installation agree outside of it. -/
theorem SameFilesOutside.agreeOutside (h : SameFilesOutside name m n) (hname : Plain name) :
    AgreeOutside name m n where
  layer place hplain hplace := by
    obtain ⟨c, rest, hpath, hc⟩ := path_layerPlace_eq_cons place
    exact h.read_eq hpath hc (not_below_of_layerPlace hname hplain hplace)
  template place hplain hplace := by
    obtain ⟨c, rest, hpath, hc⟩ := path_templatePlace_eq_cons place
    exact h.read_eq hpath hc (not_below_of_templatePlace hname hplain hplace)
  installations entry hentry := by
    rw [← LayoutDirectory.path_installations]
    refine h.lists_iff fun rest hrest => ?_
    rw [(directoryStart_eq .installations).2, List.append_assoc, List.singleton_append]
    exact not_below_of_shown hname (hrest ▸ hentry)
  defaultApps :=
    (h.directory hname .defaultApps trivial (by simp [LayoutDirectory.segments])).2
  patchedApps other hplain hother :=
    h.directory hname (.installationApps other) hplain
      (by simp [LayoutDirectory.segments, hother])
  fragments := by
    rw [← LayoutDirectory.path_fragments]
    exact h.directory hname .fragments trivial (by simp [LayoutDirectory.segments])

end MemoryStore

end LayerLint
