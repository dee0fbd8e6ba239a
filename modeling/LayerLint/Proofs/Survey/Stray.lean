-- Files that stand beside the layout. A new file is no business of a survey if it stands at none of
-- the places that are read and makes no directory that is listed: every answer that loading asks
-- for is then the one of before.
import LayerLint.Proofs.FileStore.Listing
import LayerLint.Proofs.Repository.Answers
import LayerLint.Proofs.Repository.Inventory
import Mathlib.Data.List.Sort
import Mathlib.Data.String.Basic

namespace LayerLint

open MemoryStore Repository

variable {m : MemoryStore} {path directory : String} {contents : List UInt8}

/-! ## Files that are stored in addition -/

namespace MemoryStore

theorem mem_keys_insert_iff (h : Gapless path) {key : String} :
    key ∈ (m.insert path contents).files.keys ↔ key = path ∨ key ∈ m.files.keys := by
  rw [insert, SortedMap.mem_keys_insert_iff, h.fileKey_eq]

theorem read_insert_eq (h : Gapless path) {other : String} (hother : fileKey other = other)
    (hne : path ≠ other) :
    FileStore.read m other = FileStore.read (m.insert path contents) other := by
  have hget : (m.insert path contents).get? other = m.get? other := by
    rw [get?_insert, hother, h.fileKey_eq, if_neg hne.symm]
  simp only [FileStore.read, hget]

theorem Holds.insert {rest : List Char} (h : m.Holds directory rest) (hpath : Gapless path) :
    (m.insert path contents).Holds directory rest := by
  obtain ⟨key, hkey, hstart⟩ := h
  exact ⟨key, (mem_keys_insert_iff hpath).2 (.inr hkey), hstart⟩

theorem listsDirectory_insert {name : String} (h : ListsDirectory m directory name)
    (hpath : Gapless path) : ListsDirectory (m.insert path contents) directory name := by
  obtain ⟨rest, hholds, hname⟩ := listsDirectory_iff_holds.1 h
  exact listsDirectory_iff_holds.2 ⟨rest, hholds.insert hpath, hname⟩

theorem has_insert (h : FileStore.has m directory = true) (hpath : Gapless path) :
    FileStore.has (m.insert path contents) directory = true := by
  rcases has_iff.1 h with hkey | ⟨rest, hholds⟩
  · exact has_iff.2 (.inl ((mem_keys_insert_iff hpath).2 (.inr hkey)))
  · exact has_iff.2 (.inr ⟨rest, hholds.insert hpath⟩)

/-- Directories in a directory are found exactly if something is below it. -/
theorem exists_subdirectories_iff :
    (∃ names, subdirectories m directory = .ok names) ↔ ∃ rest, m.Holds directory rest := by
  rw [← exists_list_iff]
  unfold subdirectories entriesOf
  cases FileStore.list m directory with
  | error problem => simp [Except.map]
  | ok entries => simp [Except.map]

/-- The directories in a directory stand in ascending order. -/
theorem pairwise_subdirectories {names : List String}
    (h : subdirectories m directory = .ok names) : names.Pairwise (· < ·) := by
  unfold subdirectories entriesOf at h
  cases hlist : FileStore.list m directory with
  | error problem =>
    rw [hlist] at h
    cases h
  | ok entries =>
    rw [hlist] at h
    cases h
    have hpart := List.filter_sublist (p := (·.isDirectory)) (l := entries)
    exact (pairwise_names_of_list hlist).sublist (hpart.map _)

end MemoryStore

/-! ## Files beside the layout -/

/-- A new file makes no new directory in a directory. -/
def MakesNone (m : MemoryStore) (path : String) (contents : List UInt8) (directory : String) :
    Prop :=
  ∀ name, ListsDirectory (m.insert path contents) directory name → ListsDirectory m directory name

/-- A new file stands beside the layout. -/
structure IsStray (m : MemoryStore) (path : String) (contents : List UInt8) : Prop where
  gapless : Gapless path
  /-- No layer is read at it, be it the base or one of an installation. -/
  layer : ∀ place : LayerPlace, place.IsListed m → path ≠ place.path
  /-- No template is looked for at it, be it a default or a patch. -/
  template : ∀ place : TemplatePlace, place.IsListed m → path ≠ place.path
  /-- It is neither below the directory of the fragments nor in its place. -/
  fragments : path ≠ Layout.fragments ∧ Text.beginsWith path "include/" = false
  /-- It is not in the place of a directory for the apps of an installation. -/
  apps : ∀ name, ListsDirectory m Layout.installations name → path ≠ Layout.installationApps name
  installations : MakesNone m path contents Layout.installations
  defaultApps : MakesNone m path contents Layout.defaultApps
  installationApps : ∀ name, ListsDirectory m Layout.installations name →
    MakesNone m path contents (Layout.installationApps name)

namespace MakesNone

/-- No directory is made if those that the new file goes through are there. -/
theorem of_segments {segments : List String} (h : LeadsTo directory segments)
    (hpath : Gapless path)
    (hthere : ∀ name more, more ≠ [] → Text.cutString '/' path = segments ++ name :: more →
      ListsDirectory m directory name) :
    MakesNone m path contents directory := by
  intro name hname
  obtain ⟨key, hkey, more, hmore, hcut⟩ := h.listsDirectory_iff.1 hname
  rcases (mem_keys_insert_iff hpath).1 hkey with rfl | hkey
  · exact hthere name more hmore (by simpa using hcut)
  · exact h.listsDirectory_iff.2 ⟨key, hkey, more, hmore, hcut⟩

/-- A directory that no directory is made in has the directories of before. -/
theorem subdirectories_eq (h : MakesNone m path contents directory) (hpath : Gapless path)
    {names : List String} (hnames : subdirectories m directory = .ok names) :
    subdirectories (m.insert path contents) directory = .ok names := by
  obtain ⟨rest, hholds⟩ := exists_subdirectories_iff.1 ⟨names, hnames⟩
  have hafter : (m.insert path contents).Holds directory rest := hholds.insert hpath
  obtain ⟨others, hothers⟩ := exists_subdirectories_iff.2 ⟨rest, hafter⟩
  have hmem : ∀ name, name ∈ others ↔ name ∈ names := by
    intro name
    rw [mem_subdirectories_iff hothers, mem_subdirectories_iff hnames]
    exact ⟨h name, fun hname => listsDirectory_insert hname hpath⟩
  have hsame : others = names :=
    (pairwise_subdirectories hothers).eq_of_mem_iff (pairwise_subdirectories hnames) hmem
  rw [hothers, hsame]

/-- A new file that is the first below a directory is no directory in it. -/
theorem subdirectories_eq_nil (h : MakesNone m path contents directory)
    (hgone : FileStore.has m directory ≠ true) {rest : List Char}
    (hholds : (m.insert path contents).Holds directory rest) :
    subdirectories (m.insert path contents) directory = .ok [] := by
  obtain ⟨others, hothers⟩ := exists_subdirectories_iff.2 ⟨rest, hholds⟩
  have hnone : others = [] := by
    refine List.eq_nil_iff_forall_not_mem.2 fun name hname => hgone ?_
    exact has_of_listsDirectory (h name ((mem_subdirectories_iff hothers).1 hname))
  rw [hothers, hnone]

end MakesNone

namespace IsStray

theorem not_holds_fragments (h : IsStray m path contents) (rest : List Char) :
    path.toList ≠ directoryStart Layout.fragments ++ rest := by
  intro heq
  have hbegins : Text.beginsWith path "include/" = true := by
    rw [Text.beginsWith, heq, List.isPrefixOf_iff_prefix]
    exact ⟨rest, rfl⟩
  rw [h.fragments.2] at hbegins
  cases hbegins

theorem holds_fragments_iff (h : IsStray m path contents) {rest : List Char} :
    (m.insert path contents).Holds Layout.fragments rest ↔ m.Holds Layout.fragments rest := by
  refine ⟨?_, fun hholds => hholds.insert h.gapless⟩
  rintro ⟨key, hkey, hstart⟩
  rcases (mem_keys_insert_iff h.gapless).1 hkey with rfl | hkey
  · exact absurd hstart (h.not_holds_fragments rest)
  · exact ⟨key, hkey, hstart⟩

theorem has_fragments_eq (h : IsStray m path contents) :
    FileStore.has m Layout.fragments =
      FileStore.has (m.insert path contents) Layout.fragments := by
  have hkey : String.ofList (directoryKey Layout.fragments) = Layout.fragments := by decide
  rw [Bool.eq_iff_iff, has_iff, has_iff, hkey, mem_keys_insert_iff h.gapless,
    or_iff_right h.fragments.1.symm]
  simp only [h.holds_fragments_iff]

theorem entriesOf_fragments_eq (h : IsStray m path contents) {entries : List DirectoryEntry}
    (hentries : entriesOf m Layout.fragments = .ok entries) :
    entriesOf (m.insert path contents) Layout.fragments = .ok entries := by
  unfold entriesOf at hentries ⊢
  cases hlist : FileStore.list m Layout.fragments with
  | error problem =>
    rw [hlist] at hentries
    cases hentries
  | ok found =>
    rw [hlist] at hentries
    cases hentries
    obtain ⟨rest, hholds⟩ := exists_list_iff.1 ⟨_, hlist⟩
    obtain ⟨others, hothers⟩ := exists_list_iff.2 ⟨rest, h.holds_fragments_iff.2 hholds⟩
    have hsame : ∀ entry, entry ∈ others ↔ entry ∈ entries := by
      intro entry
      rw [← lists_iff_mem hothers, ← lists_iff_mem hlist, lists_iff, lists_iff]
      simp only [h.holds_fragments_iff]
    rw [hothers, eq_of_pairwise_names (pairwise_names_of_list hothers)
      (pairwise_names_of_list hlist) hsame]

/-- The apps of an installation are found as before, also if nothing was there before. -/
theorem subdirectoriesIfAny_eq (h : IsStray m path contents) {name : String}
    (hname : ListsDirectory m Layout.installations name) {names : List String}
    (hnames : subdirectoriesIfAny m (Layout.installationApps name) = .ok names) :
    subdirectoriesIfAny (m.insert path contents) (Layout.installationApps name) = .ok names := by
  have hmakes := h.installationApps name hname
  unfold subdirectoriesIfAny at hnames ⊢
  split at hnames
  · rename_i hthere
    rw [if_pos (has_insert hthere h.gapless)]
    exact hmakes.subdirectories_eq h.gapless hnames
  · rename_i hgone
    cases hnames
    split
    · rename_i hthere
      have hkey : String.ofList (directoryKey (Layout.installationApps name)) =
          Layout.installationApps name := by
        have hends := (directoryStart_eq (.installationApps name)).1
        exact (congrArg String.ofList hends).trans (String.ofList_toList)
      rcases has_iff.1 hthere with hstored | ⟨rest, hholds⟩
      · -- Only the file itself could be in the place of the directory.
        rw [hkey, mem_keys_insert_iff h.gapless,
          or_iff_right (h.apps name hname).symm] at hstored
        exact absurd (has_iff.2 (.inl (hkey.symm ▸ hstored))) hgone
      · exact hmakes.subdirectories_eq_nil hgone hholds
    · rfl

theorem answersAs (h : IsStray m path contents) : AnswersAs m (m.insert path contents) where
  layer place hplace := read_insert_eq h.gapless place.fileKey_path (h.layer place hplace)
  template place hplace := read_insert_eq h.gapless place.fileKey_path (h.template place hplace)
  installations _ hnames := h.installations.subdirectories_eq h.gapless hnames
  defaultApps _ hnames := h.defaultApps.subdirectories_eq h.gapless hnames
  installationApps _ hname _ hnames := h.subdirectoriesIfAny_eq hname hnames
  fragments := ⟨h.has_fragments_eq, fun _ hentries => h.entriesOf_fragments_eq hentries⟩

end IsStray

/-! ## Surveys of more files -/

/-- Files beside the layout do not matter. What is loaded without such a file is loaded with it,
whatever its contents are, and nothing is different. -/
theorem a_file_beside_the_layout_changes_nothing {vocabulary : Template.Vocabulary} {s : Survey}
    (hstray : IsStray m path contents) (h : Survey.load m vocabulary = .ok s) :
    Survey.load (m.insert path contents) vocabulary = .ok s := by
  obtain ⟨hload, hs⟩ := Survey.load_eq_ok_iff.1 h
  exact Survey.load_eq_ok_iff.2 ⟨hstray.answersAs.load_eq_ok hload, hs⟩

/-- A note may stand where the apps of an installation would be, although it has none. -/
theorem isStray_note : IsStray Survey.smallStore "installations/gauss/apps/notes.md" [0] := by
  have hgapless : Gapless "installations/gauss/apps/notes.md" := by decide
  have hcut : Text.cutString '/' "installations/gauss/apps/notes.md" =
      ["installations", "gauss", "apps", "notes.md"] := by decide
  have hload := Survey.repository_of_load Survey.load_smallStore
  have hgauss : ListsDirectory Survey.smallStore Layout.installations "gauss" :=
    (mem_keys_installations_iff hload).1 (by decide)
  refine
    { gapless := hgapless
      layer := fun place hplace heq => ?_
      template := fun place hplace heq => ?_
      fragments := by decide
      apps := fun name hname heq => ?_
      installations := ?_
      defaultApps := ?_
      installationApps := fun name hname => ?_ }
  · have hsegments := place.cutString_path hplace.namesPlain
    rw [← heq, hcut] at hsegments
    cases place <;> simp [LayerPlace.segments, Layout.segmentsOf] at hsegments
  · have hsegments := place.cutString_path hplace.namesPlain
    rw [← heq, hcut] at hsegments
    rcases place with ⟨app, _ | _⟩ | ⟨i, app, _ | _⟩ | fragment <;>
      simp [TemplatePlace.segments, Layout.segmentsOf] at hsegments
  · have hsegments : Text.cutString '/' (Layout.installationApps name) =
        ["installations", name, "apps"] :=
      Layout.cutString_pathOf (List.cons_ne_nil _ _)
        (LayoutDirectory.plain_of_mem_segments (d := .installationApps name) hname.plain)
    rw [← heq, hcut] at hsegments
    simp at hsegments
  · rw [← LayoutDirectory.path_installations] at hgauss ⊢
    refine MakesNone.of_segments (leadsTo_layoutDirectory trivial) hgapless ?_
    intro name more _ hmore
    rw [hcut] at hmore
    obtain ⟨rfl, -⟩ : "gauss" = name ∧ _ := by
      simpa [LayoutDirectory.segments] using hmore
    exact hgauss
  · refine MakesNone.of_segments (leadsTo_layoutDirectory (d := .defaultApps) trivial) hgapless ?_
    intro name more _ hmore
    rw [hcut] at hmore
    simp [LayoutDirectory.segments] at hmore
  · refine MakesNone.of_segments
      (leadsTo_layoutDirectory (d := .installationApps name) hname.plain) hgapless ?_
    intro app more hdeeper hmore
    rw [hcut] at hmore
    simp only [LayoutDirectory.segments, List.cons_append, List.nil_append,
      List.cons.injEq] at hmore
    exact absurd hmore.2.2.2.2.symm hdeeper

/-- The note is not seen. -/
theorem a_note_beside_the_layout_changes_nothing :
    IsStray Survey.smallStore "installations/gauss/apps/notes.md" [0] ∧
      Survey.load (Survey.smallStore.insert "installations/gauss/apps/notes.md" [0]) .standard =
        .ok (Survey.ofRepository Survey.smallRepository) :=
  ⟨isStray_note, a_file_beside_the_layout_changes_nothing isStray_note Survey.load_smallStore⟩

end LayerLint
