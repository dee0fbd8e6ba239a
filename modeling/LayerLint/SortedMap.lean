-- Maps from texts to values, their entries in ascending order of the keys. The order of texts is
-- that of their code points.

namespace LayerLint

/-- Entries in strictly ascending order of their keys. -/
def Ascending {α : Type} (entries : List (String × α)) : Prop :=
  entries.Pairwise fun a b => a.1 < b.1

/-- A map from texts to values. -/
structure SortedMap (α : Type) where
  entries : List (String × α)
  ascending : Ascending entries
  deriving DecidableEq

namespace SortedMap

variable {α β : Type}

/-! ## Entries in order -/

/-- Adds an entry in its place; one with the same key is replaced. -/
def insertEntry (key : String) (value : α) : List (String × α) → List (String × α)
  | [] => [(key, value)]
  | (k, v) :: rest =>
    if key < k then (key, value) :: (k, v) :: rest
    else if k = key then (key, value) :: rest
    else (k, v) :: insertEntry key value rest

theorem fst_mem_insertEntry {key : String} {value : α} {entries : List (String × α)}
    {e : String × α} (h : e ∈ insertEntry key value entries) : e = (key, value) ∨ e ∈ entries := by
  induction entries with
  | nil => exact Or.inl (List.mem_singleton.1 h)
  | cons first rest ih =>
    obtain ⟨k, v⟩ := first
    simp only [insertEntry] at h
    split at h
    · rcases List.mem_cons.1 h with h | h
      · exact Or.inl h
      · exact Or.inr h
    · split at h
      · rcases List.mem_cons.1 h with h | h
        · exact Or.inl h
        · exact Or.inr (List.mem_cons_of_mem _ h)
      · rcases List.mem_cons.1 h with h | h
        · exact Or.inr (h ▸ List.mem_cons_self)
        · exact (ih h).imp id (List.mem_cons_of_mem _)

theorem ascending_insertEntry (key : String) (value : α) {entries : List (String × α)}
    (h : Ascending entries) : Ascending (insertEntry key value entries) := by
  induction entries with
  | nil => exact List.pairwise_singleton _ _
  | cons first rest ih =>
    obtain ⟨k, v⟩ := first
    obtain ⟨hfirst, hrest⟩ := List.pairwise_cons.1 h
    simp only [insertEntry]
    split
    · rename_i hlt
      refine List.pairwise_cons.2 ⟨fun e he => ?_, h⟩
      rcases List.mem_cons.1 he with rfl | he
      · exact hlt
      · exact String.lt_trans hlt (hfirst e he)
    · rename_i hge
      split
      · rename_i heq
        exact List.pairwise_cons.2 ⟨fun e he => heq ▸ hfirst e he, hrest⟩
      · rename_i hne
        refine List.pairwise_cons.2 ⟨fun e he => ?_, ih hrest⟩
        rcases fst_mem_insertEntry he with rfl | he
        · rcases Std.lt_trichotomy k key with h | h | h
          · exact h
          · exact absurd h hne
          · exact absurd h hge
        · exact hfirst e he

/-! ## Operations -/

def empty : SortedMap α := ⟨[], List.Pairwise.nil⟩

instance : Inhabited (SortedMap α) := ⟨empty⟩

/-- The value of a key. -/
def get? (m : SortedMap α) (key : String) : Option α := m.entries.lookup key

def contains (m : SortedMap α) (key : String) : Bool := (m.get? key).isSome

/-- The keys, in ascending order. -/
def keys (m : SortedMap α) : List String := m.entries.map (·.1)

def size (m : SortedMap α) : Nat := m.entries.length

/-- Adds an entry; one with the same key is replaced. -/
def insert (m : SortedMap α) (key : String) (value : α) : SortedMap α :=
  ⟨insertEntry key value m.entries, ascending_insertEntry key value m.ascending⟩

/-- The entries that satisfy a test. -/
def filter (m : SortedMap α) (p : String → α → Bool) : SortedMap α :=
  ⟨m.entries.filter fun e => p e.1 e.2, m.ascending.filter _⟩

/-- Removes an entry. -/
def erase (m : SortedMap α) (key : String) : SortedMap α := m.filter fun k _ => k != key

/-- Changes every value. -/
def map (m : SortedMap α) (f : String → α → β) : SortedMap β :=
  ⟨m.entries.map fun e => (e.1, f e.1 e.2), by
    have := m.ascending
    simp only [Ascending, List.pairwise_map] at this ⊢
    exact this⟩

/-- Changes the value of one key. -/
def modify (m : SortedMap α) (key : String) (f : α → α) : SortedMap α :=
  m.map fun k v => if k = key then f v else v

/-- A map of entries in any order; of two with the same key the later one counts. -/
def ofList (entries : List (String × α)) : SortedMap α :=
  entries.foldl (fun m e => m.insert e.1 e.2) empty

/-! ## What the operations do to the entries -/

@[ext] theorem ext {m n : SortedMap α} (h : m.entries = n.entries) : m = n := by
  cases m
  cases n
  cases h
  rfl

@[simp] theorem get?_empty (key : String) : (empty : SortedMap α).get? key = none := rfl

theorem lookup_insertEntry (key other : String) (value : α) (entries : List (String × α)) :
    (insertEntry key value entries).lookup other =
      if other = key then some value else entries.lookup other := by
  induction entries with
  | nil =>
    by_cases h : other = key
    · simp [insertEntry, h]
    · simp [insertEntry, List.lookup_cons, h, beq_eq_false_iff_ne.2 h]
  | cons first rest ih =>
    obtain ⟨k, v⟩ := first
    simp only [insertEntry]
    by_cases hlt : key < k
    · rw [if_pos hlt]
      by_cases h : other = key
      · simp [h]
      · simp [List.lookup_cons, h, beq_eq_false_iff_ne.2 h]
    · rw [if_neg hlt]
      by_cases heq : k = key
      · rw [if_pos heq]
        by_cases h : other = key
        · simp [h]
        · have hk : other ≠ k := fun e => h (e.trans heq)
          simp [List.lookup_cons, h, beq_eq_false_iff_ne.2 h, beq_eq_false_iff_ne.2 hk]
      · rw [if_neg heq]
        by_cases hk : other = k
        · have : other ≠ key := fun e => heq (hk ▸ e)
          simp [hk, heq]
        · rw [List.lookup_cons, List.lookup_cons, beq_eq_false_iff_ne.2 hk]
          exact ih

@[simp] theorem get?_insert (m : SortedMap α) (key other : String) (value : α) :
    (m.insert key value).get? other = if other = key then some value else m.get? other :=
  lookup_insertEntry key other value m.entries

@[simp] theorem entries_map (m : SortedMap α) (f : String → α → β) :
    (m.map f).entries = m.entries.map fun e => (e.1, f e.1 e.2) := rfl

theorem mem_of_lookup {entries : List (String × α)} {key : String} {value : α}
    (h : entries.lookup key = some value) : (key, value) ∈ entries := by
  induction entries with
  | nil => simp at h
  | cons first rest ih =>
    obtain ⟨k, v⟩ := first
    by_cases hk : key = k
    · subst hk
      simp only [List.lookup_cons_self, Option.some.injEq] at h
      subst h
      exact List.mem_cons_self
    · rw [List.lookup_cons, beq_eq_false_iff_ne.2 hk] at h
      exact List.mem_cons_of_mem _ (ih h)

/-- What is looked up is what stands in an entry. -/
theorem get?_eq_some_iff {m : SortedMap α} {key : String} {value : α} :
    m.get? key = some value ↔ (key, value) ∈ m.entries := by
  refine ⟨mem_of_lookup, fun h => ?_⟩
  obtain ⟨entries, ascending⟩ := m
  simp only [get?] at h ⊢
  induction entries with
  | nil => exact absurd h List.not_mem_nil
  | cons first rest ih =>
    obtain ⟨k, v⟩ := first
    obtain ⟨hfirst, hrest⟩ := List.pairwise_cons.1 ascending
    rcases List.mem_cons.1 h with heq | h
    · cases heq
      exact List.lookup_cons_self
    · have hne : key ≠ k := fun heq => String.lt_irrefl k (heq ▸ hfirst _ h)
      rw [List.lookup_cons, beq_eq_false_iff_ne.2 hne]
      exact ih hrest h

/-- Entries with one key are one entry. -/
theorem entry_eq {m : SortedMap α} {key : String} {v w : α} (hv : (key, v) ∈ m.entries)
    (hw : (key, w) ∈ m.entries) : v = w := by
  rw [← get?_eq_some_iff] at hv hw
  exact Option.some.inj (hv.symm.trans hw)

theorem nodup_entries (m : SortedMap α) : m.entries.Nodup := by
  refine List.Pairwise.imp (fun {a b} hlt => ?_) m.ascending
  rintro rfl
  exact String.lt_irrefl a.1 hlt

/-- Maps in which every key has the same value are one map. -/
theorem ext_get? {m n : SortedMap α} (h : ∀ key, m.get? key = n.get? key) : m = n := by
  have hmem : ∀ e, e ∈ m.entries ↔ e ∈ n.entries := by
    rintro ⟨key, value⟩
    rw [← get?_eq_some_iff, ← get?_eq_some_iff, h]
  refine ext (List.Perm.eq_of_pairwise (fun a b _ _ hab hba => ?_) m.ascending n.ascending
    ((List.perm_ext_iff_of_nodup m.nodup_entries n.nodup_entries).2 hmem))
  exact absurd (String.lt_trans hab hba) (String.lt_irrefl a.1)

theorem mem_keys_iff {m : SortedMap α} {key : String} :
    key ∈ m.keys ↔ ∃ value, m.get? key = some value := by
  simp only [keys, List.mem_map, get?_eq_some_iff]
  constructor
  · rintro ⟨⟨k, v⟩, h, rfl⟩
    exact ⟨v, h⟩
  · rintro ⟨v, h⟩
    exact ⟨(key, v), h, rfl⟩

theorem contains_iff_mem_keys {m : SortedMap α} {key : String} :
    m.contains key = true ↔ key ∈ m.keys := by
  rw [contains, Option.isSome_iff_exists, mem_keys_iff]

theorem pairwise_keys (m : SortedMap α) : m.keys.Pairwise (· < ·) :=
  List.pairwise_map.2 m.ascending

theorem nodup_keys (m : SortedMap α) : m.keys.Nodup :=
  m.pairwise_keys.imp String.ne_of_lt

/-- The entries that satisfy a test are looked up in what is left, and no others. -/
theorem get?_filter_eq_some_iff {m : SortedMap α} {p : String → α → Bool} {key : String}
    {value : α} :
    (m.filter p).get? key = some value ↔ m.get? key = some value ∧ p key value = true := by
  simp only [get?_eq_some_iff, filter, List.mem_filter]

theorem mem_keys_filter_iff {m : SortedMap α} {p : String → Bool} {key : String} :
    key ∈ (m.filter fun k _ => p k).keys ↔ key ∈ m.keys ∧ p key = true := by
  simp only [mem_keys_iff, get?_filter_eq_some_iff, exists_and_right]

theorem get?_erase_eq_some_iff {m : SortedMap α} {key other : String} {value : α} :
    (m.erase key).get? other = some value ↔ m.get? other = some value ∧ other ≠ key := by
  rw [erase, get?_filter_eq_some_iff, bne_iff_ne]

theorem mem_keys_insert_iff {m : SortedMap α} {key other : String} {value : α} :
    other ∈ (m.insert key value).keys ↔ other = key ∨ other ∈ m.keys := by
  simp only [mem_keys_iff, get?_insert]
  by_cases h : other = key
  · simp [h]
  · simp [h]

/-- The keys of a map of entries are those of the entries. -/
theorem mem_keys_ofList_iff {entries : List (String × α)} {key : String} :
    key ∈ (ofList entries).keys ↔ ∃ value, (key, value) ∈ entries := by
  have hfold : ∀ m : SortedMap α, key ∈ (entries.foldl (fun m e => m.insert e.1 e.2) m).keys ↔
      key ∈ m.keys ∨ ∃ value, (key, value) ∈ entries := by
    induction entries with
    | nil => simp
    | cons first rest ih =>
      intro m
      obtain ⟨k, v⟩ := first
      simp only [List.foldl_cons, ih, mem_keys_insert_iff, List.mem_cons, Prod.mk.injEq,
        exists_or, exists_and_left, exists_eq, and_true]
      rw [or_comm (a := key = k), or_assoc]
  unfold ofList
  rw [hfold]
  simp [keys, empty]

theorem mem_of_get?_ofList {entries : List (String × α)} {key : String} {value : α}
    (h : (ofList entries).get? key = some value) : (key, value) ∈ entries := by
  have hfold : ∀ m : SortedMap α,
      (entries.foldl (fun m e => m.insert e.1 e.2) m).get? key = some value →
        m.get? key = some value ∨ (key, value) ∈ entries := by
    clear h
    induction entries with
    | nil => exact fun m hm => .inl hm
    | cons first rest ih =>
      intro m hm
      rcases ih (m.insert first.1 first.2) hm with hm | hm
      · rw [get?_insert] at hm
        split at hm
        · rename_i heq
          cases hm
          exact .inr (heq ▸ List.mem_cons_self)
        · exact .inl hm
      · exact .inr (List.mem_cons_of_mem _ hm)
  exact (hfold empty h).resolve_left nofun

/-- Where no key has two values, a map of entries holds them all. -/
theorem get?_ofList_eq_some_iff {entries : List (String × α)} {key : String} {value : α}
    (h : ∀ v w, (key, v) ∈ entries → (key, w) ∈ entries → v = w) :
    (ofList entries).get? key = some value ↔ (key, value) ∈ entries := by
  refine ⟨mem_of_get?_ofList, fun hmem => ?_⟩
  obtain ⟨other, hother⟩ := mem_keys_iff.1 (mem_keys_ofList_iff.2 ⟨value, hmem⟩)
  rw [hother, h value other hmem (mem_of_get?_ofList hother)]

/-- What the entries of a map stand for holds nothing twice, if nothing stands behind two keys. -/
theorem nodup_flatMap_entries (m : SortedMap α) {f : String × α → List β}
    (hf : ∀ e ∈ m.entries, (f e).Nodup)
    (hkey : ∀ e ∈ m.entries, ∀ d ∈ m.entries, ∀ b, b ∈ f e → b ∈ f d → e.1 = d.1) :
    (m.entries.flatMap f).Nodup := by
  refine List.pairwise_flatMap.2 ⟨hf, m.ascending.imp_of_mem ?_⟩
  intro e d he hd hlt b hb c hc heq
  subst heq
  exact String.lt_irrefl d.1 (hkey e he d hd b hb hc ▸ hlt)

end SortedMap

end LayerLint
