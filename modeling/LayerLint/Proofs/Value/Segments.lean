-- The segments of a path. Cutting a path at its points loses nothing, and a path lies below another
-- exactly if it has the segments of the other first, and then some more.
import LayerLint.Proofs.Text.Digits
import LayerLint.Text.Affix
import LayerLint.Value.Path

namespace LayerLint.ValuePath

/-! ## Paths below a path -/

theorem isDescendant_iff {path ancestor : String} :
    isDescendant path ancestor = true ↔
      ∃ rest, path.toList = ancestor.toList ++ separator :: rest := by
  unfold isDescendant
  rw [List.isPrefixOf_iff_prefix]
  constructor
  · rintro ⟨rest, h⟩
    exact ⟨rest, by rw [← h, List.append_assoc]; rfl⟩
  · rintro ⟨rest, h⟩
    exact ⟨rest, by rw [h, List.append_assoc]; rfl⟩

/-- A path stands behind those that it lies below. -/
theorem lt_of_isDescendant {path ancestor : String} (h : isDescendant path ancestor = true) :
    ancestor < path := by
  obtain ⟨rest, h⟩ := isDescendant_iff.1 h
  have hlt : ancestor.toList ++ [] < ancestor.toList ++ separator :: rest :=
    List.append_left_lt (List.nil_lt_cons separator rest)
  rw [List.append_nil] at hlt
  rwa [String.lt_iff, h]

theorem beginsWith_of_isDescendant {path ancestor : String}
    (h : isDescendant path ancestor = true) : Text.beginsWith path ancestor = true := by
  obtain ⟨rest, h⟩ := isDescendant_iff.1 h
  unfold Text.beginsWith
  rw [h, List.isPrefixOf_iff_prefix]
  exact List.prefix_append _ _

/-! ## Paths and their segments -/

/-- The path of some segments. -/
def ofSegments (segments : List String) : String :=
  String.ofList (Text.paste separator (segments.map String.toList))

/-- Whether a text can be one segment of a path and nothing else. -/
def isSegment (name : String) : Bool := !name.isEmpty && !name.toList.contains separator

theorem isSegment_iff {name : String} :
    isSegment name = true ↔ name ≠ "" ∧ separator ∉ name.toList := by
  simp [isSegment]

/-- No path is lost when it is cut into segments. -/
theorem ofSegments_segments (path : String) : ofSegments (segments path) = path := by
  unfold ofSegments segments Text.cutString
  rw [List.map_map, show String.toList ∘ String.ofList = id from funext fun _ => by simp,
    List.map_id, Text.paste_cut, String.ofList_toList]

theorem segments_ofSegments {names : List String} (hne : names ≠ [])
    (h : ∀ name ∈ names, isSegment name = true) : segments (ofSegments names) = names := by
  have hparts : ∀ part ∈ names.map String.toList, separator ∉ part := by
    intro part hpart
    obtain ⟨name, hname, rfl⟩ := List.mem_map.1 hpart
    exact (isSegment_iff.1 (h name hname)).2
  rw [segments, Text.cutString, ofSegments, String.toList_ofList,
    Text.cut_paste (by simpa using hne) hparts]
  simp

theorem ofSegments_append {first rest : List String} (hfirst : first ≠ []) (hrest : rest ≠ []) :
    (ofSegments (first ++ rest)).toList =
      (ofSegments first).toList ++ separator :: (ofSegments rest).toList := by
  unfold ofSegments
  simp only [String.toList_ofList, List.map_append]
  induction first with
  | nil => exact absurd rfl hfirst
  | cons name first ih =>
    cases first with
    | nil =>
      cases rest with
      | nil => exact absurd rfl hrest
      | cons next rest => simp [Text.paste]
    | cons next first =>
      have ih := ih (List.cons_ne_nil _ _)
      simp only [List.map_cons, List.cons_append] at ih ⊢
      simp only [Text.paste, ih, List.append_assoc, List.cons_append]

theorem segments_ne_nil (path : String) : segments path ≠ [] := by
  simpa [segments, Text.cutString] using Text.cut_ne_nil separator path.toList

/-- A path lies below another if it has the segments of the other first, and then some more. -/
theorem isDescendant_iff_segments {path ancestor : String} :
    isDescendant path ancestor = true ↔
      ∃ more, more ≠ [] ∧ segments path = segments ancestor ++ more := by
  constructor
  · intro h
    obtain ⟨rest, hrest⟩ := isDescendant_iff.1 h
    refine ⟨(Text.cut separator rest).map String.ofList, ?_, ?_⟩
    · simpa using Text.cut_ne_nil separator rest
    · rw [segments, Text.cutString, hrest, Text.cut_append_cons, List.map_append]
      rfl
  · rintro ⟨more, hmore, hsegments⟩
    refine isDescendant_iff.2 ⟨(ofSegments more).toList, ?_⟩
    rw [← ofSegments_segments path, hsegments, ofSegments_append (segments_ne_nil ancestor) hmore,
      ofSegments_segments]

theorem isDescendant_iff_prefix {path ancestor : String} :
    isDescendant path ancestor = true ↔
      segments ancestor <+: segments path ∧ segments ancestor ≠ segments path := by
  rw [isDescendant_iff_segments]
  constructor
  · rintro ⟨more, hmore, hsegments⟩
    rw [hsegments]
    exact ⟨List.prefix_append _ _, fun heq => hmore (List.self_eq_append_right.1 heq)⟩
  · rintro ⟨⟨more, hsegments⟩, hne⟩
    refine ⟨more, fun hmore => hne ?_, hsegments.symm⟩
    rw [← hsegments, hmore, List.append_nil]

/-- Joining segments one after the other gives their path. -/
theorem foldl_join {path : String} (h : path ≠ "") (names : List String) :
    names.foldl join path = ofSegments (path :: names) := by
  induction names generalizing path with
  | nil => simp [ofSegments, Text.paste]
  | cons name rest ih =>
    have hjoin : (join path name).toList = path.toList ++ separator :: name.toList := by
      simp [join, String.isEmpty_iff, h]
    have hne : join path name ≠ "" := by
      intro hempty
      rw [hempty] at hjoin
      simp at hjoin
    rw [List.foldl_cons, ih hne]
    apply String.toList_inj.1
    cases rest with
    | nil => simp [ofSegments, Text.paste, hjoin]
    | cons next more => simp [ofSegments, Text.paste, hjoin]

/-- Empty segments in front leave no trace in a path. -/
theorem foldl_join_empty (names : List String) :
    names.foldl join "" = ofSegments (names.dropWhile fun name => name.isEmpty) := by
  induction names with
  | nil => rfl
  | cons name rest ih =>
    have hjoin : join "" name = name := by simp [join]
    rw [List.foldl_cons, hjoin, List.dropWhile_cons]
    by_cases hname : name = ""
    · rw [if_pos (by simpa using hname), hname, ih]
    · rw [if_neg (by simpa [String.isEmpty_iff] using hname), foldl_join hname]

theorem foldl_join_of_isSegment {names : List String} (h : ∀ name ∈ names, isSegment name = true) :
    names.foldl join "" = ofSegments names := by
  rw [foldl_join_empty]
  cases names with
  | nil => rfl
  | cons name rest =>
    have hname := (isSegment_iff.1 (h name List.mem_cons_self)).1
    rw [List.dropWhile_cons, if_neg (by simpa [String.isEmpty_iff] using hname)]

/-- The place of an item, counted from nought, is a segment. -/
theorem isSegment_toString (index : Nat) : isSegment (toString index) = true := by
  rw [isSegment_iff]
  refine ⟨?_, Text.not_mem_toString (by decide)⟩
  obtain ⟨digit, rest, hdigits⟩ := Text.exists_cons_toString index
  rw [ne_eq, ← String.toList_inj, hdigits]
  exact List.cons_ne_nil digit rest

end LayerLint.ValuePath
