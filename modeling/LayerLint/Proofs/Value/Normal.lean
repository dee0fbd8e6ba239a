-- Which paths of a document are normal. A path keeps the keys that lead to its leaf as they are
-- written, but for empty ones in front; so it is normal unless the first key that it shows begins
-- with a point of its own.
import LayerLint.Proofs.Value.Navigation

namespace LayerLint

namespace ValuePath

/-! ## Normal paths -/

/-- A path is normal if no point leads it. -/
theorem normalize_eq_self_iff {path : String} :
    normalize path = path ↔ path.toList.head? ≠ some separator := by
  unfold normalize
  split
  · rename_i rest hpath
    constructor
    · intro heq
      have hlist := congrArg String.toList heq
      rw [hpath, String.toList_ofList] at hlist
      exact absurd hlist.symm (List.cons_ne_self '.' rest)
    · intro hhead
      rw [hpath] at hhead
      exact absurd rfl hhead
  · rename_i hpath
    refine ⟨fun _ hhead => ?_, fun _ => rfl⟩
    obtain ⟨rest, hrest⟩ := List.head?_eq_some_iff.1 hhead
    exact hpath rest hrest

/-- The segments that a path shows of those that lead to it: empty ones in front are not seen. -/
def visible (names : List String) : List String := names.dropWhile fun name => name.isEmpty

theorem ne_empty_of_visible {names rest : List String} {first : String}
    (h : visible names = first :: rest) : first ≠ "" := by
  have hhead := List.head?_dropWhile_not (fun name : String => name.isEmpty) names
  unfold visible at h
  rw [h] at hhead
  simpa [String.isEmpty_iff] using hhead

/-- A path begins as the first of its segments does. -/
theorem head?_ofSegments {first : String} (h : first ≠ "") (rest : List String) :
    (ofSegments (first :: rest)).toList.head? = first.toList.head? := by
  obtain ⟨c, cs, hfirst⟩ := List.exists_cons_of_ne_nil (mt String.toList_eq_nil_iff.1 h)
  unfold ofSegments
  rw [String.toList_ofList, List.map_cons, hfirst]
  cases rest with
  | nil => rfl
  | cons next rest => rfl

theorem ofSegments_visible_eq_empty_iff {names : List String} :
    ofSegments (visible names) = "" ↔ visible names = [] := by
  constructor
  · intro hempty
    cases hnames : visible names with
    | nil => rfl
    | cons first rest =>
      have hfirst := ne_empty_of_visible hnames
      have hhead := head?_ofSegments hfirst rest
      rw [← hnames, hempty] at hhead
      exact absurd (String.toList_eq_nil_iff.1 (List.head?_eq_none_iff.1 hhead.symm)) hfirst
  · intro hnil
    rw [hnil]
    rfl

end ValuePath

namespace Value

open ValuePath Yaml

/-! ## Paths of a document -/

theorem mem_keys_leaves_iff_leadsTo {root : Node} {path : String} :
    path ∈ (leaves root).keys ↔ ∃ names leaf, root.LeadsTo names leaf ∧ leaf.isLeaf = true ∧
      path = ofSegments (visible names) ∧ visible names ≠ [] := by
  unfold leaves
  rw [SortedMap.mem_keys_ofList_iff]
  simp only [mem_flatten_iff_leadsTo, foldl_join_empty]
  constructor
  · rintro ⟨_, names, leaf, hleads, hleaf, rfl, hne, _⟩
    exact ⟨names, leaf, hleads, hleaf, rfl, mt ofSegments_visible_eq_empty_iff.2 hne⟩
  · rintro ⟨names, leaf, hleads, hleaf, rfl, hne⟩
    exact ⟨_, names, leaf, hleads, hleaf, rfl, mt ofSegments_visible_eq_empty_iff.1 hne, rfl⟩

/-- What is read of a document is read of the tree that it stands for, unless nothing is written in
it. -/
theorem extract_eq_ok_iff {bytes : List UInt8} {m : SortedMap Value} :
    extract bytes = .ok m ↔ isBlankDocument bytes = true ∧ m = SortedMap.empty ∨
      isBlankDocument bytes = false ∧ ∃ root, Node.ofOctets bytes = .ok root ∧ m = leaves root := by
  unfold extract
  cases isBlankDocument bytes with
  | true => simp [pure, Except.pure, eq_comm]
  | false =>
    cases Node.ofOctets bytes with
    | error fault => simp [Except.map]
    | ok root => simp [Except.map, eq_comm]

/-- Of a document that is read, either nothing is written in it and it has no paths, or its paths
are those of the segments that lead to its leaves, but for empty ones in front; and such a path is
normal exactly if the first segment that it shows does not begin with a point. -/
theorem a_path_is_normal_unless_the_first_key_that_it_shows_begins_with_a_point
    {bytes : List UInt8} {m : SortedMap Value} (h : extract bytes = .ok m) :
    isBlankDocument bytes = true ∧ m.keys = [] ∨ ∃ root, Node.ofOctets bytes = .ok root ∧
      (∀ names leaf, root.LeadsTo names leaf → leaf.isLeaf = true → visible names ≠ [] →
        ofSegments (visible names) ∈ m.keys) ∧
      ∀ path ∈ m.keys, ∃ names leaf first rest, root.LeadsTo names leaf ∧ leaf.isLeaf = true ∧
        visible names = first :: rest ∧ path = ofSegments (first :: rest) ∧
        (path.toList.head? = some separator ↔ first.toList.head? = some separator) ∧
        (normalize path = path ↔ first.toList.head? ≠ some separator) := by
  rcases extract_eq_ok_iff.1 h with ⟨hblank, rfl⟩ | ⟨_, root, hroot, rfl⟩
  · exact .inl ⟨hblank, rfl⟩
  · refine .inr ⟨root, hroot, ?_, ?_⟩
    · intro names leaf hleads hleaf hnames
      exact mem_keys_leaves_iff_leadsTo.2 ⟨names, leaf, hleads, hleaf, rfl, hnames⟩
    · intro path hpath
      obtain ⟨names, leaf, hleads, hleaf, rfl, hne⟩ := mem_keys_leaves_iff_leadsTo.1 hpath
      obtain ⟨first, rest, hnames⟩ := List.exists_cons_of_ne_nil hne
      have hhead := head?_ofSegments (ne_empty_of_visible hnames) rest
      refine ⟨names, leaf, first, rest, hleads, hleaf, hnames, by rw [hnames], ?_, ?_⟩
      · rw [hnames, hhead]
      · rw [hnames, normalize_eq_self_iff, hhead]

theorem exists_of_keys_extract {bytes : List UInt8} {keys : List String}
    (h : (extract bytes).toOption.map SortedMap.keys = some keys) :
    ∃ m, extract bytes = .ok m ∧ m.keys = keys := by
  cases hm : extract bytes with
  | error fault =>
    rw [hm] at h
    cases h
  | ok m =>
    rw [hm] at h
    exact ⟨m, rfl, Option.some.inj h⟩

/-- A document with keys that begin with a point, one behind an empty key and one behind another. -/
def pointedDocument : List UInt8 := "\"\":\n  .a: 1\nb:\n  .c: 2\n".toUTF8.toList

/-- Behind an empty key the point of a key leads the path, which so is not normal. -/
theorem a_path_of_the_pointed_document_is_not_normal :
    ∃ m root, extract pointedDocument = .ok m ∧ Node.ofOctets pointedDocument = .ok root ∧
      m.keys = [".a", "b..c"] ∧ normalize ".a" ≠ ".a" ∧
      ∃ names leaf first rest, root.LeadsTo names leaf ∧ visible names = first :: rest ∧
        ".a" = ofSegments (first :: rest) ∧ first.toList.head? = some separator := by
  obtain ⟨m, hm, hkeys⟩ : ∃ m, extract pointedDocument = .ok m ∧ m.keys = [".a", "b..c"] :=
    exists_of_keys_extract (by decide +kernel)
  rcases a_path_is_normal_unless_the_first_key_that_it_shows_begins_with_a_point hm with
    ⟨_, hnone⟩ | ⟨root, hroot, _, hpaths⟩
  · rw [hkeys] at hnone
    cases hnone
  · obtain ⟨names, leaf, first, rest, hleads, _, hnames, hpath, hpoint, hnormal⟩ :=
      hpaths ".a" (by rw [hkeys]; exact List.mem_cons_self)
    have hfirst : first.toList.head? = some separator := hpoint.1 (by decide)
    refine ⟨m, root, hm, hroot, hkeys, ?_, names, leaf, first, rest, hleads, hnames, hpath, hfirst⟩
    intro heq
    exact hnormal.1 heq hfirst

/-- Two keys that differ in a point in front make two entries, and taking the point off makes one
path of theirs. -/
theorem a_point_in_front_of_a_key_makes_a_second_entry :
    ∃ m, extract ".a:\n  b: 1\na:\n  b: 2\n".toUTF8.toList = .ok m ∧ ".a.b" ∈ m.keys ∧
      "a.b" ∈ m.keys ∧ ".a.b".toList.head? = some separator ∧ normalize ".a.b" = "a.b" := by
  obtain ⟨m, hm, hkeys⟩ : ∃ m, extract ".a:\n  b: 1\na:\n  b: 2\n".toUTF8.toList = .ok m ∧
      m.keys = [".a.b", "a.b"] :=
    exists_of_keys_extract (by decide +kernel)
  refine ⟨m, hm, ?_, ?_, by decide, by decide⟩
  · rw [hkeys]
    decide
  · rw [hkeys]
    decide

end Value

end LayerLint
