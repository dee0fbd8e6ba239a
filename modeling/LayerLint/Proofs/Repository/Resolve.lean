-- What a reference resolves to. The leaves below a reference stand together in the order of the
-- keys, right behind the place of the reference, so that the search finds all of them.
import LayerLint.Proofs.Value.Segments
import LayerLint.Repository.Layer

namespace LayerLint

/-! ## The order of texts that begin alike -/

/-- What lies between the beginning of a text and the text begins in the same way. -/
theorem isPrefix_of_between {start middle text : List Char} (hstart : start < middle)
    (hmiddle : middle < text) (h : start <+: text) : start <+: middle := by
  induction start generalizing middle text with
  | nil => exact List.nil_prefix
  | cons c start ih =>
    obtain ⟨rest, rfl⟩ := h
    cases middle with
    | nil => exact absurd hstart (List.not_lt_nil _)
    | cons d middle =>
      rcases List.cons_lt_cons_iff.1 hstart with hlt | ⟨rfl, hrest⟩
      · rcases List.cons_lt_cons_iff.1 hmiddle with hgt | ⟨rfl, _⟩
        · exact absurd hgt (Char.lt_asymm hlt)
        · exact absurd hlt (Char.lt_irrefl d)
      · rcases List.cons_lt_cons_iff.1 hmiddle with hlt | ⟨_, hlast⟩
        · exact absurd hlt (Char.lt_irrefl c)
        · exact List.cons_prefix_cons.2 ⟨rfl, ih hrest hlast (List.prefix_append _ _)⟩

/-! ## Ranges of ascending keys -/

theorem lt_of_mem_dropWhile {keys : List String} (h : keys.Pairwise (· < ·)) {start key : String}
    (hkey : key ∈ keys.dropWhile fun k => !decide (start < k)) : start < key := by
  induction keys with
  | nil => exact absurd hkey List.not_mem_nil
  | cons first rest ih =>
    obtain ⟨hfirst, hrest⟩ := List.pairwise_cons.1 h
    rw [List.dropWhile_cons] at hkey
    by_cases hlt : start < first
    · simp only [hlt, decide_true, Bool.not_true, Bool.false_eq_true, if_false] at hkey
      rcases List.mem_cons.1 hkey with rfl | hkey
      · exact hlt
      · exact String.lt_trans hlt (hfirst key hkey)
    · simp only [hlt, decide_false, Bool.not_false, if_true] at hkey
      exact ih hrest hkey

/-- Behind a first run of keys nothing is selected, if all keys up to a selected one are in the
run. -/
theorem filter_dropWhile_eq_nil {keys : List String} (h : keys.Pairwise (· < ·))
    {run selected : String → Bool}
    (hrun : ∀ key ∈ keys, selected key = true → ∀ k ∈ keys, k = key ∨ k < key → run k = true) :
    (keys.dropWhile run).filter selected = [] := by
  induction keys with
  | nil => rfl
  | cons first rest ih =>
    obtain ⟨hfirst, hrest⟩ := List.pairwise_cons.1 h
    rw [List.dropWhile_cons]
    by_cases hin : run first = true
    · rw [if_pos hin]
      exact ih hrest fun key hkey hsel k hk =>
        hrun key (List.mem_cons_of_mem _ hkey) hsel k (List.mem_cons_of_mem _ hk)
    · rw [if_neg hin]
      refine List.filter_eq_nil_iff.2 fun key hkey hsel => hin ?_
      refine hrun key hkey hsel first List.mem_cons_self ?_
      rcases List.mem_cons.1 hkey with rfl | hkey
      · exact .inl rfl
      · exact .inr (hfirst key hkey)

namespace Layer

/-! ## Leaves of a reference -/

variable {l : Layer} {reference leaf : String}

/-- The leaves of a reference are those at it or, if there is none, all those below it. -/
theorem resolve_eq (l : Layer) (reference : String) :
    l.resolve reference =
      if l.values.contains reference then [reference]
      else l.values.keys.filter fun key => ValuePath.isDescendant key reference := by
  unfold resolve
  congr 1
  generalize hkeys : l.values.keys = keys
  have hsorted : keys.Pairwise (· < ·) := hkeys ▸ l.values.pairwise_keys
  have hbefore : (keys.takeWhile fun key => !decide (reference < key)).filter
      (fun key => ValuePath.isDescendant key reference) = [] := by
    refine List.filter_eq_nil_iff.2 fun key hkey hbelow => ?_
    have hnot := List.all_eq_true.1 List.all_takeWhile key hkey
    simp [ValuePath.lt_of_isDescendant hbelow] at hnot
  have hlater := hsorted.sublist (List.dropWhile_sublist fun key => !decide (reference < key))
  have hafter : ((keys.dropWhile fun key => !decide (reference < key)).dropWhile
      fun key => Text.beginsWith key reference).filter
      (fun key => ValuePath.isDescendant key reference) = [] := by
    refine filter_dropWhile_eq_nil hlater fun key _ hbelow k hk hle => ?_
    have hbegin := ValuePath.beginsWith_of_isDescendant hbelow
    rcases hle with rfl | hlt
    · exact hbegin
    · unfold Text.beginsWith at hbegin ⊢
      rw [List.isPrefixOf_iff_prefix] at hbegin ⊢
      exact isPrefix_of_between (String.lt_iff.1 (lt_of_mem_dropWhile hsorted hk))
        (String.lt_iff.1 hlt) hbegin
  conv =>
    rhs
    rw [← List.takeWhile_append_dropWhile (p := fun key => !decide (reference < key)) (l := keys),
      List.filter_append, hbefore, List.nil_append,
      ← List.takeWhile_append_dropWhile (p := fun key => Text.beginsWith key reference)
        (l := keys.dropWhile fun key => !decide (reference < key)),
      List.filter_append, hafter, List.append_nil]

theorem mem_resolve_iff :
    leaf ∈ l.resolve reference ↔ leaf ∈ l.values.keys ∧
      (leaf = reference ∨
        reference ∉ l.values.keys ∧ ValuePath.isDescendant leaf reference = true) := by
  rw [resolve_eq]
  by_cases hself : reference ∈ l.values.keys
  · rw [if_pos (SortedMap.contains_iff_mem_keys.2 hself), List.mem_singleton]
    constructor
    · rintro rfl
      exact ⟨hself, .inl rfl⟩
    · rintro ⟨_, rfl | ⟨hnot, _⟩⟩
      · rfl
      · exact absurd hself hnot
  · rw [if_neg (mt SortedMap.contains_iff_mem_keys.1 hself), List.mem_filter]
    constructor
    · rintro ⟨hleaf, hbelow⟩
      exact ⟨hleaf, .inr ⟨hself, hbelow⟩⟩
    · rintro ⟨hleaf, rfl | ⟨_, hbelow⟩⟩
      · exact absurd hleaf hself
      · exact ⟨hleaf, hbelow⟩

/-- A reference has leaves if there is a value at it or below it. -/
theorem resolve_ne_nil_iff :
    l.resolve reference ≠ [] ↔ ∃ leaf ∈ l.values.keys,
      leaf = reference ∨ ValuePath.isDescendant leaf reference = true := by
  constructor
  · intro hne
    obtain ⟨leaf, hleaf⟩ := List.exists_mem_of_ne_nil _ hne
    obtain ⟨hkey, rfl | ⟨_, hbelow⟩⟩ := mem_resolve_iff.1 hleaf
    · exact ⟨leaf, hkey, .inl rfl⟩
    · exact ⟨leaf, hkey, .inr hbelow⟩
  · rintro ⟨leaf, hkey, hleaf⟩
    by_cases hself : reference ∈ l.values.keys
    · exact List.ne_nil_of_mem (mem_resolve_iff.2 ⟨hself, .inl rfl⟩)
    · refine List.ne_nil_of_mem (mem_resolve_iff.2 ⟨hkey, ?_⟩)
      exact hleaf.imp_right fun hbelow => ⟨hself, hbelow⟩

/-! ## The search as a whole -/

/-- The leaves of a reference stand in ascending order. -/
theorem pairwise_resolve (l : Layer) (reference : String) :
    (l.resolve reference).Pairwise (· < ·) := by
  rw [resolve_eq]
  split
  · exact List.pairwise_singleton _ _
  · exact l.values.pairwise_keys.filter _

/-- A reference that is a key stands for itself alone. Any other stands for all keys below it in
ascending order, although the search ends at the first key that does not begin like it. A key lies
below a reference just if the segments of the reference are the first of its own and not all of
them. -/
theorem a_reference_stands_for_itself_or_for_all_keys_below_it (l : Layer) (reference : String) :
    (l.resolve reference =
      if reference ∈ l.values.keys then [reference]
      else l.values.keys.filter fun key => ValuePath.isDescendant key reference) ∧
    (l.resolve reference).Pairwise (· < ·) ∧
    ∀ key ancestor : String, ValuePath.isDescendant key ancestor = true ↔
      ValuePath.segments ancestor <+: ValuePath.segments key ∧
        ValuePath.segments ancestor ≠ ValuePath.segments key := by
  refine ⟨?_, pairwise_resolve l reference, fun _ _ => ValuePath.isDescendant_iff_prefix⟩
  rw [resolve_eq]
  simp only [SortedMap.contains_iff_mem_keys]

/-- Keys that begin like `a` lie below it and beside it in turn: those with a character before the
point are no leaves of it, and neither is the key that only begins like `a.b`. -/
example :
    (Layer.mk "" .base (.ofList [("a ", .null), ("a.", .null), ("a.b", .null), ("a.b.c", .null),
      ("a/b", .null), ("ab", .null)])).resolve "a" = ["a.", "a.b", "a.b.c"] := by
  decide

end Layer

end LayerLint
