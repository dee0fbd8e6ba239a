-- Trees of directories and files. Names lead from a directory to what stands below it, files stand
-- at the end of names, and a system finds at a path what the segments of the path lead to.
import LayerLint.FileStore.Tree
import LayerLint.Proofs.FileStore.Listing

namespace LayerLint

open MemoryStore (Proper)

namespace FileTree

/-! ## Files in a tree -/

/-- A name that an entry of a directory can have. -/
structure IsName (name : String) : Prop where
  proper : Proper name
  notHere : name ≠ "."
  notAbove : name ≠ ".."

/-- A tree as a system keeps it: the names in a directory are all different. No directory is
empty. -/
inductive Sound : FileTree → Prop
  | file {contents : List UInt8} : Sound (.file contents)
  | directory {entries : List (String × FileTree)} : entries ≠ [] →
      (entries.map (·.1)).Nodup → (∀ e ∈ entries, IsName e.1) → (∀ e ∈ entries, Sound e.2) →
      Sound (.directory entries)

/-- A file stands in a tree at the end of segments. -/
inductive FileAt : FileTree → List String → List UInt8 → Prop
  | here {contents : List UInt8} : FileAt (.file contents) [] contents
  | entry {entries : List (String × FileTree)} {name : String} {next : FileTree}
      {rest : List String} {contents : List UInt8} : (name, next) ∈ entries →
      FileAt next rest contents → FileAt (.directory entries) (name :: rest) contents

/-- What stands in a tree at the end of segments. -/
def below? : FileTree → List String → Option FileTree
  | here, [] => some here
  | .file _, _ :: _ => none
  | .directory entries, name :: rest => (entries.lookup name).bind fun next => next.below? rest

variable {tree node next : FileTree} {entries : List (String × FileTree)} {name : String}
  {segments more : List String} {contents : List UInt8}

theorem Sound.of_mem (h : Sound (.directory entries)) {e : String × FileTree} (he : e ∈ entries) :
    IsName e.1 ∧ Sound e.2 := by
  cases h with
  | directory _ _ hnames hsound => exact ⟨hnames e he, hsound e he⟩

theorem isDirectory_iff_exists :
    node.isDirectory = true ↔ ∃ entries, node = .directory entries := by
  cases node <;> simp [isDirectory]

/-- A name is looked up just if it stands in the directory. -/
theorem Sound.lookup_eq_some_iff (h : Sound (.directory entries)) :
    entries.lookup name = some next ↔ (name, next) ∈ entries := by
  cases h with
  | directory _ hnodup _ _ =>
    clear * - hnodup
    induction entries with
    | nil => simp
    | cons e entries ih =>
      obtain ⟨other, first⟩ := e
      rw [List.map_cons, List.nodup_cons] at hnodup
      rw [List.lookup_cons, List.mem_cons, Prod.mk.injEq]
      by_cases hname : name = other
      · subst hname
        have hnot : (name, next) ∉ entries := fun hmem =>
          hnodup.1 (List.mem_map.2 ⟨(name, next), hmem, rfl⟩)
        simp [hnot, eq_comm]
      · have hbeq : (name == other) = false := beq_false_of_ne hname
        rw [hbeq]
        simp [hname, ih hnodup.2]

theorem Sound.below? (h : Sound tree) (hnode : tree.below? segments = some node) : Sound node := by
  induction segments generalizing tree with
  | nil =>
    cases hnode
    exact h
  | cons name rest ih =>
    cases tree with
    | file => cases hnode
    | directory entries =>
      obtain ⟨next, hnext, hrest⟩ := Option.bind_eq_some_iff.1 hnode
      exact ih (h.of_mem (h.lookup_eq_some_iff.1 hnext)).2 hrest

/-- Some file stands in every tree, and below a directory it has a segment more. -/
theorem Sound.exists_fileAt (h : Sound tree) :
    ∃ more contents, FileAt tree more contents ∧ (tree.isDirectory = true → more ≠ []) := by
  induction h with
  | file => exact ⟨[], _, .here, nofun⟩
  | @directory entries hne _ _ _ ih =>
    obtain ⟨e, he⟩ := List.exists_mem_of_ne_nil _ hne
    obtain ⟨more, contents, hfile, _⟩ := ih e he
    exact ⟨e.1 :: more, contents, .entry he hfile, fun _ => List.cons_ne_nil _ _⟩

theorem FileAt.isName (h : FileAt tree segments contents) (hsound : Sound tree) :
    ∀ segment ∈ segments, IsName segment := by
  induction h with
  | here => exact nofun
  | entry hmem _ ih =>
    obtain ⟨hname, hnext⟩ := hsound.of_mem hmem
    exact List.forall_mem_cons.2 ⟨hname, ih hnext⟩

theorem below?_append (tree : FileTree) (segments more : List String) :
    tree.below? (segments ++ more) =
      (tree.below? segments).bind fun node => node.below? more := by
  induction segments generalizing tree with
  | nil => rfl
  | cons name rest ih =>
    cases tree with
    | file => rfl
    | directory entries =>
      simp only [List.cons_append, below?, ih, Option.bind_assoc]

/-- A file stands at the end of more segments if it stands there below what the first of them lead
to. -/
theorem Sound.fileAt_append_iff (h : Sound tree) :
    FileAt tree (segments ++ more) contents ↔
      ∃ node, tree.below? segments = some node ∧ FileAt node more contents := by
  induction segments generalizing tree with
  | nil => simp [FileTree.below?]
  | cons name rest ih =>
    cases tree with
    | file =>
      simp only [List.cons_append, FileTree.below?]
      constructor
      · intro hfile
        cases hfile
      · rintro ⟨_, hnone, _⟩
        cases hnone
    | directory entries =>
      simp only [List.cons_append, FileTree.below?, Option.bind_eq_some_iff,
        h.lookup_eq_some_iff]
      constructor
      · intro hfile
        cases hfile with
        | entry hmem hrest =>
          obtain ⟨node, hnode, hfile⟩ := (ih (h.of_mem hmem).2).1 hrest
          exact ⟨node, ⟨_, hmem, hnode⟩, hfile⟩
      · rintro ⟨node, ⟨next, hmem, hnode⟩, hfile⟩
        exact .entry hmem ((ih (h.of_mem hmem).2).2 ⟨node, hnode, hfile⟩)

theorem Sound.fileAt_iff (h : Sound tree) :
    FileAt tree segments contents ↔ tree.below? segments = some (.file contents) := by
  rw [← List.append_nil segments, h.fileAt_append_iff, List.append_nil]
  constructor
  · rintro ⟨node, hnode, hfile⟩
    cases hfile
    exact hnode
  · intro hnode
    exact ⟨_, hnode, .here⟩

/-- Something stands below a path if it leads to a directory. -/
theorem Sound.exists_fileAt_below_iff (h : Sound tree) :
    (∃ more contents, more ≠ [] ∧ FileAt tree (segments ++ more) contents) ↔
      ∃ entries, tree.below? segments = some (.directory entries) := by
  simp only [h.fileAt_append_iff]
  constructor
  · rintro ⟨more, contents, hmore, node, hnode, hfile⟩
    cases hfile with
    | here => contradiction
    | entry => exact ⟨_, hnode⟩
  · rintro ⟨entries, hnode⟩
    obtain ⟨more, contents, hfile, hmore⟩ := (h.below? hnode).exists_fileAt
    exact ⟨more, contents, hmore rfl, _, hnode, hfile⟩

/-! ## Following a path -/

variable {ancestors : List FileTree}

/-- Segments lead nowhere, whatever follows them, or to a place from which the others go on. -/
theorem follow_append (ancestors : List FileTree) (tree : FileTree) (segments : List String) :
    (∃ problem, ∀ more, follow ancestors tree (segments ++ more) = .error problem) ∨
      ∃ above node, ∀ more, follow ancestors tree (segments ++ more) = follow above node more := by
  fun_induction follow ancestors tree segments with
  | case1 ancestors here => exact .inr ⟨ancestors, here, fun _ => rfl⟩
  | case2 => exact .inl ⟨.notDirectory, fun _ => by rw [List.cons_append, follow]⟩
  | case3 ancestors entries segment rest hstay ih =>
    simpa only [List.cons_append, follow_stay hstay] using ih
  | case4 => exact .inl ⟨.notFound, fun _ => by simp [follow]⟩
  | case5 entries rest parent above _ ih =>
    simpa only [List.cons_append, follow_back] using ih
  | case6 ancestors entries segment rest hstay hback hlimit =>
    refine .inl ⟨.nameTooLong, fun more => ?_⟩
    rw [List.cons_append, follow_name _ _ hstay hback, if_pos hlimit]
  | case7 ancestors entries segment rest hstay hback hlimit hnone =>
    refine .inl ⟨.notFound, fun more => ?_⟩
    rw [List.cons_append, follow_name _ _ hstay hback, if_neg hlimit, hnone]
  | case8 ancestors entries segment rest hstay hback hlimit next hnext ih =>
    simpa only [List.cons_append, follow_name _ _ hstay hback, if_neg hlimit, hnext] using ih

theorem IsName.not_stay (h : IsName name) : ¬(name = "" ∨ name = ".") := by
  rintro (hempty | hpoint)
  · exact h.proper.1 hempty
  · exact h.notHere hpoint

/-- Names that are not too long lead to what stands at their end, and nowhere else. -/
theorem follow_eq_ok_iff (hnames : ∀ segment ∈ segments, IsName segment) :
    follow ancestors tree segments = .ok node ↔
      tree.below? segments = some node ∧
        ∀ segment ∈ segments, segment.utf8ByteSize ≤ nameLimit := by
  induction segments generalizing ancestors tree with
  | nil => simp [follow, below?]
  | cons name rest ih =>
    obtain ⟨hname, hrest⟩ := List.forall_mem_cons.1 hnames
    cases tree with
    | file => simp [follow, below?]
    | directory entries =>
      rw [follow_name _ _ hname.not_stay hname.notAbove, List.forall_mem_cons]
      by_cases hlimit : nameLimit < name.utf8ByteSize
      · simp [hlimit, Nat.not_le.2 hlimit]
      · rw [if_neg hlimit]
        cases hnext : entries.lookup name with
        | none => simp [below?, hnext]
        | some next => simp [below?, hnext, ih hrest, Nat.not_lt.1 hlimit]

/-! ## Listings -/

/-- A listing has one entry for each name. -/
theorem Sound.mem_listing_iff (h : Sound (.directory entries)) {entry : DirectoryEntry} :
    entry ∈ listing entries ↔
      ∃ node, (entry.name, node) ∈ entries ∧ entry.isDirectory = node.isDirectory := by
  rw [listing, List.mem_mergeSort, List.mem_filterMap]
  constructor
  · rintro ⟨e, he, hentry⟩
    have hplain : '/' ∉ e.1.toList := (h.of_mem he).1.proper.2
    rw [DirectoryEntry.of?, dif_pos hplain, Option.some.injEq] at hentry
    subst hentry
    exact ⟨e.2, he, rfl⟩
  · rintro ⟨node, hmem, hkind⟩
    refine ⟨(entry.name, node), hmem, ?_⟩
    rw [DirectoryEntry.of?, dif_pos entry.plain, Option.some.injEq]
    exact DirectoryEntry.ext rfl (by rw [hkind])

theorem map_name_of_plain (h : ∀ e ∈ entries, '/' ∉ e.1.toList) :
    (entries.filterMap fun e => DirectoryEntry.of? e.1 e.2.isDirectory).map (·.name) =
      entries.map (·.1) := by
  induction entries with
  | nil => rfl
  | cons e entries ih =>
    obtain ⟨hplain, hrest⟩ := List.forall_mem_cons.1 h
    have hentry : DirectoryEntry.of? e.1 e.2.isDirectory = some ⟨e.1, e.2.isDirectory, hplain⟩ :=
      dif_pos hplain
    simp only [List.filterMap_cons, hentry, List.map_cons, ih hrest]

/-- A listing is in ascending order of the names, each of which stands there once. -/
theorem Sound.pairwise_names_listing (h : Sound (.directory entries)) :
    ((listing entries).map (·.name)).Pairwise (· < ·) := by
  have hperm := List.mergeSort_perm
    (entries.filterMap fun e => DirectoryEntry.of? e.1 e.2.isDirectory) fun a b => a.name ≤ b.name
  have hnames := (hperm.map (·.name)).trans
    (List.Perm.of_eq (map_name_of_plain fun e he => (h.of_mem he).1.proper.2))
  have hnodup : ((listing entries).map (·.name)).Nodup := by
    cases h with
    | directory _ hnodup _ _ => exact hnames.nodup_iff.2 hnodup
  have hsorted : ((listing entries).map (·.name)).Pairwise (· ≤ ·) := by
    rw [List.pairwise_map]
    refine (List.pairwise_mergeSort ?_ ?_ _).imp fun {a b} hle => of_decide_eq_true hle
    · intro a b c hab hbc
      exact decide_eq_true (String.le_trans (of_decide_eq_true hab) (of_decide_eq_true hbc))
    · intro a b
      simpa using String.le_total a.name b.name
  refine (hsorted.and hnodup).imp fun {a b} ⟨hle, hne⟩ => ?_
  exact String.not_le.1 fun hba => hne (String.le_antisymm hle hba)

/-! ## Answers -/

variable {path : String}

/-- What a system finds at a path that it takes. -/
theorem find_eq_ok_iff :
    tree.find path = .ok node ↔
      ('\x00' ∉ path.toList ∧ path ≠ "" ∧ path.utf8ByteSize < pathLimit) ∧
        follow [] tree (Text.cutString '/' path) = .ok node := by
  unfold find
  split
  · simp_all
  · split
    · simp_all
    · split
      · rename_i hlimit
        simp [Nat.not_lt.2 hlimit]
      · simp_all

theorem read_eq_ok_iff {contents : List UInt8} :
    tree.read path = .ok contents ↔ tree.find path = .ok (.file contents) := by
  unfold read
  split <;> simp_all

theorem list_eq_ok_iff {listed : List DirectoryEntry} :
    tree.list path = .ok listed ↔
      ∃ entries, tree.find path = .ok (.directory entries) ∧ listed = listing entries := by
  unfold list
  split
  · simp_all
  · simp_all
  · rename_i entries hfind
    simp [hfind, eq_comm]

/-- A path is there if it is read as a file or listed as a directory. -/
theorem has_iff_read_or_list :
    tree.has path = true ↔
      (∃ contents, tree.read path = .ok contents) ∨ ∃ listed, tree.list path = .ok listed := by
  simp only [read_eq_ok_iff, list_eq_ok_iff]
  unfold has
  cases tree.find path with
  | error problem => simp
  | ok node => cases node <;> simp

end FileTree

end LayerLint
